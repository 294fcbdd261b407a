import AmrWarehouse.Inspection.NavExecutor
import AmrWarehouse.Inspection.PointSuccess
import AmrWarehouse.Wms.ExecutorRuns

/-! An inspection runs through its stages until one fails, and its report says how far it came. -/

namespace Inspection

open Library InspectionRunController

section Checks

variable {α : Type} {a : α} {checks : List (α × Bool)}

def attempted : List (α × Bool) → List α
  | [] => []
  | (a, passed) :: checks => a :: if passed then attempted checks else []

def allPass (checks : List (α × Bool)) : Bool := checks.all Prod.snd

@[simp] lemma attempted_nil : attempted ([] : List (α × Bool)) = [] := rfl

@[simp] lemma attempted_passed : attempted ((a, true) :: checks) = a :: attempted checks := rfl

@[simp] lemma attempted_failed : attempted ((a, false) :: checks) = [a] := rfl

@[simp] lemma allPass_passed : allPass ((a, true) :: checks) = allPass checks := by
  simp [allPass]

@[simp] lemma allPass_failed : allPass ((a, false) :: checks) = false := by simp [allPass]

end Checks

/-- The stages after the navigation answer: verdicts, an observation or an acquisition error, an
evaluation against the limit of the item, and a reference to the evidence. -/
structure Inspector.Works (inspector : Inspector) (task : InspectionTask) : Prop where
  arrival : ∀ verifier ∈ inspector.arrivalVerifier, ∀ navigation, ∃ check,
    verifier task navigation = .ok check
  stabilization : ∀ stabilizer ∈ inspector.stabilizer, ∃ check, stabilizer task = .ok check
  acquisition : ∀ request receivedAtMs e, inspector.processor.acquire request receivedAtMs =
    .error e → e.kind = .other "InspectionAcquisitionError"
  evaluation : ∀ observation findingId evaluatedAtMs, ∃ result,
    inspector.processor.evaluator.evaluate observation findingId evaluatedAtMs = .ok result ∧
      result.maximumValue = .finite task.point.item.maximumValue
  evidence : ∀ runId attempt, ∃ reference,
    inspector.processor.persistAttempt runId attempt = .ok reference

structure Underway (runId robotId : String) (task : InspectionTask)
    (expected : InspectionExecutionPhase) (c : InspectionRunController) : Prop where
  run : c.runId = runId
  robot : c.robotId = robotId
  mission : c.task = task
  first : c.completedAttempts = []
  attempt : c.attempt.attemptId = attemptIdOf runId task.point.pointId 1
  phase : c.phase = expected
  unpersisted : c.attempt.evidenceReference = none
  navigated : 2 ≤ progress expected → c.attempt.navigationSucceeded = true
  arrived : 3 ≤ progress expected → c.attempt.arrivalAccepted = true
  stabilized : 4 ≤ progress expected → c.attempt.stabilizationSucceeded = true

section Verdicts

variable (inspector : Inspector) (task : InspectionTask) (runId robotId : String) (nowMs : ℤ)

def passes : Except InspectionError StageCheckResult → Bool
  | .ok check => check.passed
  | .error _ => false

def startedController : InspectionRunController :=
  ⟨runId, robotId, task, [], newAttempt runId task 1⟩

def acquisitionChecks : List (Stage × Bool) :=
  match inspector.processor.acquire
      (InspectionPointProcessor.acquisitionRequest (startedController task runId robotId))
      nowMs with
  | .ok observation =>
    [(.acquisition, true),
      (.validation, ((startedController task runId robotId).qualityOf observation nowMs).passed),
      (.evaluation, true)]
  | .error _ => [(.acquisition, false)]

def stabilizationChecks : List (Stage × Bool) :=
  (.stabilization, passes (inspector.stabilizer.getD deterministicStabilizer task)) ::
    acquisitionChecks inspector task runId robotId nowMs

def arrivalChecks (navigation : Wms.NavigationResult) : List (Stage × Bool) :=
  (.arrival, passes
    (inspector.arrivalVerifier.getD deterministicArrivalVerifier task navigation)) ::
    stabilizationChecks inspector task runId robotId nowMs

def stageChecks (navigation : Wms.NavigationResult) : List (Stage × Bool) :=
  (.navigation, navigation.succeeded) ::
    arrivalChecks inspector task runId robotId nowMs navigation

end Verdicts

section Phases

variable {runId robotId : String} {task : InspectionTask} {c : InspectionRunController}

lemma underway_started (runId robotId : String) (task : InspectionTask) :
    Underway runId robotId task .idle (startedController task runId robotId) :=
  ⟨rfl, rfl, rfl, rfl, rfl, rfl, rfl, by simp [progress], by simp [progress], by simp [progress]⟩

lemma Underway.navigating (h : Underway runId robotId task .idle c) :
    Underway runId robotId task .navigating
      (c.withAttempt { c.attempt with phase := .navigating }) :=
  { h with
    phase := rfl
    navigated := by simp [progress]
    arrived := by simp [progress]
    stabilized := by simp [progress] }

lemma Underway.arriving (h : Underway runId robotId task .navigating c) :
    Underway runId robotId task .arrived (c.withAttempt
      { c.attempt with navigationSucceeded := true, phase := .arrived, reason := none }) :=
  { h with
    phase := rfl
    navigated := fun _ => rfl
    arrived := by simp [progress]
    stabilized := by simp [progress] }

lemma Underway.stabilizing (h : Underway runId robotId task .arrived c) :
    Underway runId robotId task .stabilizing
      (c.withAttempt { c.attempt with arrivalAccepted := true, phase := .stabilizing }) :=
  { h with
    phase := rfl
    navigated := fun _ => h.navigated (by decide)
    arrived := fun _ => rfl
    stabilized := by simp [progress] }

lemma Underway.acquiring (h : Underway runId robotId task .stabilizing c) :
    Underway runId robotId task .acquiring
      (c.withAttempt { c.attempt with stabilizationSucceeded := true, phase := .acquiring }) :=
  { h with
    phase := rfl
    navigated := fun _ => h.navigated (by decide)
    arrived := fun _ => h.arrived (by decide)
    stabilized := fun _ => rfl }

end Phases

section Visits

variable {runId robotId : String} {task : InspectionTask} {visit : Visit}
  {processor : InspectionPointProcessor} {nowMs : ℤ} {c : InspectionRunController}

lemma ends_onController {α : Type} {call : Call InspectionRunController α} {a : α}
    {c : InspectionRunController} {Q : α → Visit → Prop} {E : Visit → Prop}
    (h : call.run visit.controller = .ok a c) (hq : Q a { visit with controller := c }) :
    Ends (onController call) visit Q E := by
  rw [onController, ends_focus]
  exact ends_of_ok h hq

structure Failing (c : InspectionRunController) : Prop where
  retryable : c.phase ∈ retryablePhases
  unpersisted : c.attempt.evidenceReference = none
  first : c.completedAttempts = []

structure Reports (c : InspectionRunController) (report : InspectionReport) : Prop where
  completion : report.completion = completionOf c.phase.value
  attempts : report.attempts = [attemptReport c.attempt.snapshot]

lemma exists_report (nowMs : ℤ) (h : c.task = task) (hfirst : c.completedAttempts = []) : ∃ report,
    buildInspectionReport task c.snapshot nowMs = .ok report ∧ Reports c report := by
  subst h
  refine ⟨_, by rw [buildInspectionReport, if_neg (by simp [snapshot])], rfl, ?_⟩
  simp [snapshot, hfirst]

lemma ends_persistCurrentAttempt
    (hevidence : ∀ runId attempt, ∃ reference,
      processor.persistAttempt runId attempt = .ok reference)
    (hphase : visit.controller.phase ∈ evidencePhases)
    (hnone : visit.controller.attempt.evidenceReference = none) {Q : Unit → Visit → Prop}
    {E : Visit → Prop}
    (hq : ∀ reference, Q () ⟨visit.controller.withAttempt
      { visit.controller.attempt with evidenceReference := some reference },
      visit.entered ++ [.evidence]⟩) :
    Ends processor.persistCurrentAttempt visit Q E := by
  obtain ⟨reference, hreference⟩ :=
    hevidence visit.controller.runId visit.controller.attempt.snapshot
  simp only [InspectionPointProcessor.persistCurrentAttempt, enter, ends_bind, ends_get,
    ends_modify, hreference, ends_orRaise_ok]
  exact ends_onController (run_of_advance (.persisted hphase hnone reference)) (hq reference)

lemma ends_buildReport (hfirst : visit.controller.completedAttempts = [])
    {Q : InspectionReport → Visit → Prop} {E : Visit → Prop}
    (hq : ∀ report, Reports visit.controller report → Q report visit) :
    Ends (InspectionPointProcessor.buildReport nowMs) visit Q E := by
  obtain ⟨report, hreport, hreports⟩ := exists_report nowMs rfl hfirst
  simp only [InspectionPointProcessor.buildReport, ends_bind, ends_get, hreport, ends_orRaise_ok]
  exact hq report hreports

structure Concludes (checks : List (Stage × Bool)) (entered entered' : List Stage)
    (report : InspectionReport) : Prop where
  entered : entered' = entered ++ attempted checks ++ [.evidence]
  completion : report.completion = if allPass checks then .succeeded else .failed
  attempts : ∃ attempt, report.attempts = [attempt] ∧ attempt.evidence.isSome = true

lemma Concludes.passed {stage : Stage} {checks : List (Stage × Bool)}
    {entered entered' : List Stage} {report : InspectionReport}
    (h : Concludes checks (entered ++ [stage]) entered' report) :
    Concludes ((stage, true) :: checks) entered entered' report where
  entered := by rw [h.entered, attempted_passed, List.append_assoc entered]; rfl
  completion := by rw [h.completion, allPass_passed]
  attempts := h.attempts

lemma ends_persistAndReport
    (hevidence : ∀ runId attempt, ∃ reference,
      processor.persistAttempt runId attempt = .ok reference)
    (hfailing : Failing visit.controller) {stage : Stage} {checks : List (Stage × Bool)}
    {entered : List Stage}
    (hentered : visit.entered = entered ++ [stage]) :
    Ends (do
        processor.persistCurrentAttempt
        InspectionPointProcessor.buildReport nowMs) visit
      (fun report visit' => Concludes ((stage, false) :: checks) entered visit'.entered report)
      (fun _ => False) := by
  have hallowed : ∀ phase ∈ retryablePhases, phase ∈ evidencePhases := by decide
  rw [ends_bind]
  refine ends_persistCurrentAttempt hevidence (hallowed _ hfailing.retryable) hfailing.unpersisted
    fun reference => ?_
  refine ends_buildReport ?_ fun report hreports => ⟨?_, ?_, ?_⟩
  · exact hfailing.first
  · rw [hentered, attempted_failed]
  · rw [hreports.completion, allPass_failed, if_neg (by simp)]
    exact (completionOf_value _).mpr hfailing.retryable
  · exact ⟨_, hreports.attempts, rfl⟩

lemma run_validateObservation_passed {observation : MockObservation}
    (hphase : c.phase = .validating) (ho : c.attempt.observation = some observation)
    (hpass : (c.qualityOf observation nowMs).passed = true) :
    (validateObservation nowMs).run c = .ok (c.qualityOf observation nowMs) (c.withAttempt
      { c.attempt with
        qualityResult := some (c.qualityOf observation nowMs)
        phase := .evaluating }) := by
  simp [validateObservation, run_requirePhase hphase, run_requireObservation ho, hpass]

lemma run_validateObservation_failed {observation : MockObservation}
    (hphase : c.phase = .validating) (ho : c.attempt.observation = some observation)
    (hpass : (c.qualityOf observation nowMs).passed = false) :
    (validateObservation nowMs).run c = .ok (c.qualityOf observation nowMs) (c.withAttempt
      { c.attempt with
        qualityResult := some (c.qualityOf observation nowMs)
        phase := .dataInvalid
        reason := some (c.qualityOf observation nowMs).reason }) := by
  simp [validateObservation, run_requirePhase hphase, run_requireObservation ho, hpass]

lemma run_evaluate {observation : MockObservation} {evaluator : ObservationEvaluator}
    {result : EvaluationResult} (hphase : c.phase = .evaluating)
    (ho : c.attempt.observation = some observation)
    (hresult :
      evaluator.evaluate observation (c.attempt.attemptId ++ ":finding") nowMs = .ok result)
    (hmax : result.maximumValue = .finite c.task.point.item.maximumValue) :
    (evaluate (some evaluator) (some nowMs)).run c =
      .ok result (c.withAttempt { c.attempt with evaluationResult := some result }) := by
  simp [evaluate, run_requirePhase hphase, run_requireObservation ho, hresult, hmax]

lemma ends_complete (hphase : visit.controller.phase = .evaluating)
    (hmissing : missingOf visit.controller.attempt = [])
    (hfirst : visit.controller.completedAttempts = [])
    (hevidence : visit.controller.attempt.evidenceReference.isSome = true) :
    Ends (do
        onController completePoint
        onController completeRun
        InspectionPointProcessor.buildReport nowMs) visit
      (fun report visit' => visit'.entered = visit.entered ∧ report.completion = .succeeded ∧
        ∃ attempt, report.attempts = [attempt] ∧ attempt.evidence.isSome = true)
      (fun _ => False) := by
  rw [ends_bind]
  refine ends_onController (run_of_advance (.pointSucceeded hphase hmissing)) ?_
  rw [ends_bind]
  refine ends_onController (run_of_advance (.succeeded rfl)) ?_
  refine ends_buildReport ?_ fun report hreports => ⟨rfl, ?_, ?_⟩
  · exact hfirst
  · have hsucceeded : completionOf InspectionExecutionPhase.succeeded.value = .succeeded := by
      decide
    exact hreports.completion.trans hsucceeded
  · exact ⟨_, hreports.attempts, hevidence⟩

variable {inspector : Inspector} {entered : List Stage}

lemma ends_inspectObservation (hworks : inspector.Works task)
    (h : Underway runId robotId task .acquiring visit.controller) (observation : MockObservation)
    (hentered : visit.entered = entered ++ [.acquisition]) :
    Ends (inspector.processor.inspectObservation observation nowMs) visit
      (fun report visit' => Concludes [(.acquisition, true),
        (.validation, (visit.controller.qualityOf observation nowMs).passed), (.evaluation, true)]
        entered visit'.entered report) (fun _ => False) := by
  rw [InspectionPointProcessor.inspectObservation, ends_bind]
  refine ends_onController (run_of_advance (.validating h.phase observation)) ?_
  set validating := visit.controller.withAttempt
    { visit.controller.attempt with observation := some observation, phase := .validating }
  have hquality : validating.qualityOf observation nowMs =
      visit.controller.qualityOf observation nowMs := rfl
  rw [← hquality, ends_bind, enter, ends_modify, ends_bind]
  cases hpass : (validating.qualityOf observation nowMs).passed with
  | false =>
    refine ends_onController (run_validateObservation_failed rfl rfl hpass) ?_
    rw [if_neg (by simp [hpass])]
    refine (ends_persistAndReport hworks.evidence ?_ ?_).mono
      (fun report visit' hconcludes => hconcludes.passed) (fun _ hfalse => hfalse)
    · exact ⟨by simp [phase, withAttempt, retryablePhases], h.unpersisted, h.first⟩
    · rw [← hentered]
  | true =>
    refine ends_onController (run_validateObservation_passed rfl rfl hpass) ?_
    rw [if_pos hpass, ends_bind, enter, ends_modify, ends_bind, ends_discard]
    obtain ⟨result, hresult, hmax⟩ := hworks.evaluation observation
      (visit.controller.attempt.attemptId ++ ":finding") nowMs
    rw [← h.mission] at hmax
    refine ends_onController (run_evaluate rfl rfl hresult hmax) ?_
    rw [ends_bind]
    refine ends_persistCurrentAttempt hworks.evidence ?_ ?_ fun reference => ?_
    · exact (by decide : InspectionExecutionPhase.evaluating ∈ evidencePhases)
    · exact h.unpersisted
    have hnavigated : validating.attempt.navigationSucceeded = true := h.navigated (by decide)
    have harrived : validating.attempt.arrivalAccepted = true := h.arrived (by decide)
    have hstabilized : validating.attempt.stabilizationSucceeded = true :=
      h.stabilized (by decide)
    refine (ends_complete ?_ ?_ ?_ ?_).mono (fun report visit' hdone => ?_) (fun _ hfalse => hfalse)
    · rfl
    · simp [missingOf, withAttempt, hnavigated, harrived, hstabilized, hpass]
    · exact h.first
    · rfl
    · obtain ⟨hstages, hcompletion, hattempts⟩ := hdone
      have hstages' : visit'.entered =
          visit.entered ++ [.validation] ++ [.evaluation] ++ [.evidence] := hstages
      refine ⟨?_, ?_, hattempts⟩
      · rw [hstages', hentered]
        simp
      · rw [hcompletion]
        simp [allPass]

lemma ends_processCurrentAttempt (visit : Visit) (hworks : inspector.Works task)
    (h : Underway runId robotId task .acquiring visit.controller) :
    Ends (inspector.processor.processCurrentAttempt nowMs) visit
      (fun report visit' => Concludes (acquisitionChecks inspector task runId robotId nowMs)
        visit.entered visit'.entered report) (fun _ => False) := by
  have hrequest : InspectionPointProcessor.acquisitionRequest visit.controller =
      InspectionPointProcessor.acquisitionRequest (startedController task runId robotId) := by
    rw [InspectionPointProcessor.acquisitionRequest, h.run, h.attempt, h.robot, h.mission]
    rfl
  have hquality : ∀ observation, visit.controller.qualityOf observation nowMs =
      (startedController task runId robotId).qualityOf observation nowMs := by
    intro observation
    rw [qualityOf, h.mission, h.robot]
    rfl
  rw [InspectionPointProcessor.processCurrentAttempt, ends_bind, ends_get,
    if_neg (by simp [h.phase]), ends_bind, enter, ends_modify, hrequest, acquisitionChecks]
  cases hacquire : inspector.processor.acquire
      (InspectionPointProcessor.acquisitionRequest (startedController task runId robotId))
      nowMs with
  | ok observation =>
    dsimp only
    rw [← hquality observation]
    exact ends_inspectObservation hworks (by exact h) observation rfl
  | error e =>
    dsimp only
    rw [if_pos (hworks.acquisition _ _ _ hacquire), ends_bind]
    refine ends_onController (run_of_advance (.sensorFailed h.phase e.message)) ?_
    refine ends_persistAndReport hworks.evidence ?_ rfl
    exact ⟨by simp [phase, withAttempt, retryablePhases], h.unpersisted, h.first⟩

lemma ends_finalizeCurrentFailure (hworks : inspector.Works task)
    (hfailing : Failing visit.controller) {stage : Stage}
    (hentered : visit.entered = entered ++ [stage]) (checks : List (Stage × Bool)) :
    Ends (inspector.processor.finalizeCurrentFailure nowMs) visit
      (fun report visit' => Concludes ((stage, false) :: checks) entered visit'.entered report)
      (fun _ => False) := by
  have hallowed : ∀ phase ∈ retryablePhases, phase ∈ InspectionPointProcessor.failurePhases := by
    decide
  rw [InspectionPointProcessor.finalizeCurrentFailure, ends_bind, ends_get,
    if_neg (not_not.mpr (hallowed _ hfailing.retryable)), whenever, if_pos hfailing.unpersisted]
  exact ends_persistAndReport hworks.evidence hfailing hentered

end Visits

structure Finishes (checks : List (Stage × Bool)) (before : NavResult) (outing : Outing)
    (result : NavResult) (outing' : Outing) : Prop where
  reported : ∃ report, result.inspectionReport = some report ∧
    result.outcome = some (.completed report.completion) ∧
    result.exitCode = (if report.completion = .succeeded then 0 else 1) ∧
    Concludes checks outing.visit.entered outing'.visit.entered report
  course : outing'.course = outing.course
  kept : result.goalSent = before.goalSent ∧ result.readyGate = before.readyGate ∧
    result.navigationResult = before.navigationResult

section Outings

variable {runId robotId : String} {task : InspectionTask} {outing : Outing} {result : NavResult}
  {nowMs : ℤ} {inspector : Inspector} {around : Wms.Surroundings} {options : NavOptions}

lemma ends_onVisit {α : Type} {call : Call Visit α} {Q : α → Outing → Prop} {E : Outing → Prop} :
    Ends (onVisit call) outing Q E ↔ Ends call outing.visit
      (fun a visit => Q a { outing with visit := visit })
      (fun visit => E { outing with visit := visit }) := by
  rw [onVisit, ends_focus, ends_mapError]

lemma ends_finishFailed (stage : Stage) (checks : List (Stage × Bool)) (start : NavResult)
    (before : Outing) (hworks : inspector.Works task) (hfailing : Failing outing.visit.controller)
    {message : String}
    (hentered : outing.visit.entered = before.visit.entered ++ [stage])
    (hcourse : outing.course = before.course)
    (hkept : result.goalSent = start.goalSent ∧ result.readyGate = start.readyGate ∧
      result.navigationResult = start.navigationResult) :
    Ends (finishFailed inspector nowMs result message) outing
      (fun result' outing' => Finishes ((stage, false) :: checks) start before result' outing')
      (fun _ => False) := by
  rw [finishFailed, ends_bind, ends_onVisit]
  refine (ends_finalizeCurrentFailure hworks hfailing hentered checks).mono ?_
    (fun _ hfalse => hfalse)
  intro report visit' hconcludes
  exact ⟨⟨report, rfl, rfl, rfl, hconcludes⟩, hcourse, hkept⟩

lemma Finishes.passed {stage : Stage} {checks : List (Stage × Bool)} {before result' : NavResult}
    {outing' mid : Outing} (h : Finishes checks before mid result' outing')
    (hentered : mid.visit.entered = outing.visit.entered ++ [stage])
    (hcourse : mid.course = outing.course) {start : NavResult}
    (hkept : before.goalSent = start.goalSent ∧ before.readyGate = start.readyGate ∧
      before.navigationResult = start.navigationResult) :
    Finishes ((stage, true) :: checks) start outing result' outing' where
  reported := by
    obtain ⟨report, hreport, houtcome, hexit, hconcludes⟩ := h.reported
    rw [hentered] at hconcludes
    exact ⟨report, hreport, houtcome, hexit, hconcludes.passed⟩
  course := h.course.trans hcourse
  kept := ⟨h.kept.1.trans hkept.1, h.kept.2.1.trans hkept.2.1, h.kept.2.2.trans hkept.2.2⟩

lemma exists_stabilization (hworks : inspector.Works task) :
    ∃ check, inspector.stabilizer.getD deterministicStabilizer task = .ok check := by
  cases hstabilizer : inspector.stabilizer with
  | none => exact ⟨_, rfl⟩
  | some stabilizer => exact hworks.stabilization stabilizer hstabilizer

lemma exists_arrival (hworks : inspector.Works task) (navigation : Wms.NavigationResult) : ∃ check,
    inspector.arrivalVerifier.getD deterministicArrivalVerifier task navigation = .ok check := by
  cases hverifier : inspector.arrivalVerifier with
  | none => exact ⟨_, rfl⟩
  | some verifier => exact hworks.arrival verifier hverifier navigation

lemma ends_stabilizeAndProcess (outing : Outing) (hworks : inspector.Works task)
    (h : Underway runId robotId task .stabilizing outing.visit.controller) :
    Ends (stabilizeAndProcess inspector task nowMs result) outing
      (fun result' outing' => Finishes (stabilizationChecks inspector task runId robotId nowMs)
        result outing result' outing') (fun _ => False) := by
  obtain ⟨check, hcheck⟩ := exists_stabilization hworks
  simp only [stabilizeAndProcess, stabilizationChecks, hcheck, passes, enter, ends_bind,
    ends_onVisit, ends_modify, ends_orRaise_ok]
  cases hpassed : check.passed with
  | true =>
    refine ends_onController (run_of_advance (.acquiring h.phase check.reason)) ?_
    rw [if_pos rfl]
    simp only [ends_bind, ends_onVisit, ends_pure]
    refine (ends_processCurrentAttempt ⟨_, _⟩ hworks h.acquiring).mono
      (fun report visit' hconcludes => ?_) (fun _ hfalse => hfalse)
    exact ⟨⟨report, rfl, rfl, rfl, hconcludes.passed⟩, rfl, rfl, rfl, rfl⟩
  | false =>
    refine ends_onController (run_of_advance (.unstable h.phase check.reason)) ?_
    rw [if_neg (by simp)]
    refine ends_finishFailed _ _ _ _ hworks ?_ rfl rfl ⟨rfl, rfl, rfl⟩
    exact ⟨by simp [phase, withAttempt, retryablePhases], h.unpersisted, h.first⟩

lemma ends_verifyArrival (outing : Outing) (hworks : inspector.Works task)
    (h : Underway runId robotId task .arrived outing.visit.controller)
    (navigation : Wms.NavigationResult) :
    Ends (verifyArrival inspector task nowMs result navigation) outing
      (fun result' outing' => Finishes (arrivalChecks inspector task runId robotId nowMs navigation)
        result outing result' outing') (fun _ => False) := by
  obtain ⟨check, hcheck⟩ := exists_arrival hworks navigation
  simp only [verifyArrival, arrivalChecks, hcheck, passes, enter, ends_bind, ends_onVisit,
    ends_modify, ends_orRaise_ok]
  cases hpassed : check.passed with
  | true =>
    refine ends_onController (run_of_advance (.stabilizing h.phase check.reason)) ?_
    rw [if_pos rfl]
    refine (ends_stabilizeAndProcess ⟨_, _, _⟩ hworks h.stabilizing).mono
      (fun result' outing' hfinishes => ?_) (fun _ hfalse => hfalse)
    exact hfinishes.passed rfl rfl ⟨rfl, rfl, rfl⟩
  | false =>
    refine ends_onController (run_of_advance (.arrivalRefused h.phase check.reason)) ?_
    rw [if_neg (by simp)]
    refine ends_finishFailed _ _ _ _ hworks ?_ rfl rfl ⟨rfl, rfl, rfl⟩
    exact ⟨by simp [phase, withAttempt, retryablePhases], h.unpersisted, h.first⟩

lemma ends_onRuntime {α : Type} {call : Wms.Call Wms.Course α} {Q : α → Outing → Prop}
    {E : Outing → Prop} :
    Ends (onRuntime call) outing Q E ↔ Ends call outing.course
      (fun a course => Q a { outing with course := course })
      (fun course => E { outing with course := course }) := by
  rw [onRuntime, ends_focus, ends_mapError]

/-- The robot was sent once, and the stages were entered until one failed. -/
structure Inspected (inspector : Inspector) (task : InspectionTask) (runId robotId : String)
    (nowMs : ℤ) (navigation : Wms.NavigationResult) (before : NavResult) (outing : Outing)
    (result : NavResult) (outing' : Outing) : Prop where
  reported : ∃ report, result.inspectionReport = some report ∧
    result.outcome = some (.completed report.completion) ∧
    result.exitCode = (if report.completion = .succeeded then 0 else 1) ∧
    Concludes (stageChecks inspector task runId robotId nowMs navigation) outing.visit.entered
      outing'.visit.entered report
  sent : outing'.course.sent = outing.course.sent ++ [before.resolvedPose]
  goalSent : result.goalSent = true
  gate : result.readyGate = before.readyGate
  navigation : result.navigationResult = some navigation

lemma ends_navigateAndInspect (outing : Outing) (hworks : inspector.Works task)
    (h : Underway runId robotId task .idle outing.visit.controller)
    {navigation : Wms.NavigationResult}
    (hnavigation : around.runtime.navigations outing.course.sent.length = .ok navigation) :
    Ends (navigateAndInspect around options inspector task nowMs result) outing
      (fun result' outing' =>
        Inspected inspector task runId robotId nowMs navigation result outing result' outing')
      (fun _ => False) := by
  simp only [navigateAndInspect, ends_bind, ends_onVisit, ends_onRuntime]
  refine ends_onController (run_of_advance (.navigating h.phase)) ?_
  simp only [enter, ends_modify, Wms.navigateToPose, ends_bind, ends_get, ends_set, hnavigation,
    ends_orRaise_ok]
  cases hpassed : navigation.succeeded with
  | true =>
    refine ends_onController (run_of_advance (.arrived h.navigating.phase navigation.reason)) ?_
    rw [if_pos rfl]
    refine (ends_verifyArrival ⟨_, _, _⟩ hworks h.navigating.arriving navigation).mono
      (fun result' outing' hfinishes => ?_) (fun _ hfalse => hfalse)
    obtain ⟨report, hreport, houtcome, hexit, hconcludes⟩ := hfinishes.reported
    refine ⟨⟨report, hreport, houtcome, hexit, ?_⟩, congrArg Wms.Course.sent hfinishes.course,
      hfinishes.kept.1, hfinishes.kept.2.1, hfinishes.kept.2.2⟩
    rw [stageChecks, hpassed]
    exact hconcludes.passed
  | false =>
    refine ends_onController
      (run_of_advance (.navigationFailed h.navigating.phase navigation.reason)) ?_
    rw [if_neg (by simp)]
    set sent : NavResult :=
      { result with goalSent := true, navigationResult := some navigation }
    refine Ends.mono (ends_finishFailed .navigation
      (arrivalChecks inspector task runId robotId nowMs navigation) sent ⟨_, outing.visit⟩ hworks
      ?_ ?_ rfl ⟨rfl, rfl, rfl⟩) (fun result' outing' hfinishes => ?_) (fun _ hfalse => hfalse)
    · exact ⟨by simp [phase, withAttempt, retryablePhases], h.unpersisted, h.first⟩
    · rfl
    · obtain ⟨report, hreport, houtcome, hexit, hconcludes⟩ := hfinishes.reported
      refine ⟨⟨report, hreport, houtcome, hexit, ?_⟩, congrArg Wms.Course.sent hfinishes.course,
        hfinishes.kept.1, hfinishes.kept.2.1, hfinishes.kept.2.2⟩
      rw [stageChecks, hpassed]
      exact hconcludes

lemma ends_currentReport (h : Underway runId robotId task .idle outing.visit.controller)
    {Q : InspectionReport → Outing → Prop} {E : Outing → Prop} (hq : ∀ report, Q report outing) :
    Ends (currentReport task nowMs) outing Q E := by
  obtain ⟨report, hreport, -⟩ := exists_report nowMs h.mission h.first
  simp only [currentReport, ends_bind, ends_get, hreport, ends_onVisit, ends_orRaise_ok]
  exact hq report

end Outings

structure Accounted (around : Wms.Surroundings) (inspector : Inspector) (task : InspectionTask)
    (runId robotId : String) (nowMs : ℤ) (start : Mission) (result : NavResult) (finish : Mission) :
    Prop where
  gate : ∃ gate, result.readyGate = some gate ∧ (result.goalSent = true ↔ gate.ready = true)
  goals : finish.course.sent =
    start.course.sent ++ if result.goalSent then [resolvedPoseOf task] else []
  kept : result.goalSent = false → finish.entered = start.entered ++ [.readyGate]
  inspected : result.goalSent = true → ∃ navigation report attempt,
    around.runtime.navigations start.course.sent.length = .ok navigation ∧
    result.navigationResult = some navigation ∧ result.inspectionReport = some report ∧
    (report.completion = .succeeded ∨ report.completion = .failed) ∧
    report.attempts = [attempt] ∧ attempt.evidence.isSome = true ∧
    result.outcome = some (.completed report.completion) ∧
    (result.exitCode = 0 ↔ report.completion = .succeeded) ∧
    finish.entered = start.entered ++ .readyGate ::
      attempted (stageChecks inspector task runId robotId nowMs navigation) ++ [.evidence] ∧
    (report.completion = .succeeded ↔
      ∀ check ∈ stageChecks inspector task runId robotId nowMs navigation, check.2 = true)

def Inspectionless (start : Mission) (result : NavResult) (finish : Mission) : Prop :=
  result.goalSent = false ∧ finish.course.sent = start.course.sent ∧
    finish.entered = start.entered ++ [.readyGate]

section Run

variable {around : Wms.Surroundings} {inspector : Inspector} {task : InspectionTask}
  {runId robotId : String} {nowMs : ℤ} {start : Mission} {options : NavOptions} {result : NavResult}

lemma ends_inspectOnce_execute (hruntime : around.runtime.Responds) (hworks : inspector.Works task)
    (hexecute : options.execute = true) (hpose : result.resolvedPose = resolvedPoseOf task)
    (hsent : result.goalSent = false) :
    Ends (inspectOnce around options inspector task nowMs result)
      ⟨start.course, ⟨startedController task runId robotId, start.entered⟩⟩
      (fun result' outing => Accounted around inspector task runId robotId nowMs start result'
        ⟨outing.course, outing.visit.entered⟩) (fun _ => False) := by
  have hstarted := underway_started runId robotId task
  obtain ⟨waited, course, hwait, hcourse, -⟩ := Wms.exists_run_waitForExecuteReadyGate hruntime
    options.readyTimeoutSec options.readyPollIntervalSec start.course
  simp only [inspectOnce, checkGate, enter, ends_bind, ends_onVisit, ends_modify, hexecute, if_true,
    ends_onRuntime]
  refine ends_of_ok hwait ?_
  rw [ends_pure]
  by_cases hready : waited.readyGate.ready = false
  · rw [if_pos hready, ends_bind]
    refine ends_currentReport hstarted fun report => ?_
    rw [ends_pure]
    refine ⟨⟨waited.readyGate, rfl, ?_⟩, ?_, fun _ => rfl, ?_⟩
    · simp [hsent, hready]
    · simp [hsent, hcourse]
    · intro hgoal
      simp [hsent] at hgoal
  · have hopen : waited.readyGate.ready = true := by simpa using hready
    obtain ⟨navigation, hnavigation⟩ := hruntime.2 course.sent.length
    rw [if_neg hready, if_neg (by simp)]
    refine (ends_navigateAndInspect ⟨_, _⟩ hworks hstarted hnavigation).mono
      (fun result' outing hinspected => ?_) (fun _ hfalse => hfalse)
    obtain ⟨report, hreport, houtcome, hexit, hconcludes⟩ := hinspected.reported
    obtain ⟨attempt, hattempts, hevidence⟩ := hconcludes.attempts
    refine ⟨⟨waited.readyGate, hinspected.gate, ?_⟩, ?_, ?_, fun _ => ?_⟩
    · simp [hinspected.goalSent, hopen]
    · rw [hinspected.goalSent, if_pos rfl]
      change outing.course.sent = _
      rw [hinspected.sent, hcourse, hpose]
    · intro hgoal
      simp [hinspected.goalSent] at hgoal
    · refine ⟨navigation, report, attempt, hcourse ▸ hnavigation, hinspected.navigation, hreport,
        ?_, hattempts, hevidence, houtcome, ?_, ?_, ?_⟩
      · rw [hconcludes.completion]
        split_ifs <;> simp
      · rw [hexit]
        split_ifs with hsucceeded <;> simp [hsucceeded]
      · change outing.visit.entered = _
        rw [hconcludes.entered]
        simp
      · rw [hconcludes.completion, allPass, ← List.all_eq_true]
        split_ifs with hall <;> simp [hall]

lemma ends_inspectOnce_dryRun (hruntime : around.runtime.Responds)
    (hexecute : options.execute = false) (hsent : result.goalSent = false) :
    Ends (inspectOnce around options inspector task nowMs result)
      ⟨start.course, ⟨startedController task runId robotId, start.entered⟩⟩
      (fun result' outing => Inspectionless start result' ⟨outing.course, outing.visit.entered⟩)
      (fun _ => False) := by
  have hstarted := underway_started runId robotId task
  obtain ⟨gate, hgate⟩ := hruntime.1 start.course.checks
  simp only [inspectOnce, checkGate, enter, ends_bind, ends_onVisit, ends_modify, hexecute,
    ends_onRuntime, Wms.checkReadyGate, ends_get, ends_set, hgate, ends_orRaise_ok, ends_pure,
    Bool.false_eq_true, if_false]
  by_cases hready : gate.ready = false
  · rw [if_pos hready, ends_bind]
    exact ends_currentReport hstarted fun report => ⟨hsent, rfl, rfl⟩
  · rw [if_neg hready, if_pos trivial, ends_bind]
    exact ends_currentReport hstarted fun report => ⟨hsent, rfl, rfl⟩

lemma ends_withController {α : Type} {controller : InspectionRunController}
    {call : EStateM NavError Outing α} {mission : Mission} {Q : α → Mission → Prop}
    {E : Mission → Prop} :
    Ends (withController controller call) mission Q E ↔
      Ends call ⟨mission.course, ⟨controller, mission.entered⟩⟩
        (fun a outing => Q a ⟨outing.course, outing.visit.entered⟩)
        (fun outing => E ⟨outing.course, outing.visit.entered⟩) := by
  simp only [Ends, withController, EStateM.run]
  cases call ⟨mission.course, ⟨controller, mission.entered⟩⟩ <;> rfl

end Run

/-- Without a run id or a robot id nothing happens. -/
theorem inspection_is_accounted_for (around : Wms.Surroundings) (hruntime : around.runtime.Responds)
    (inspector : Inspector) (task : InspectionTask) (hworks : inspector.Works task)
    (wallClockMs : ℤ) (options : NavOptions) (runId robotId : String) (start : Mission) :
    Ends (runInspectionNavOnce around wallClockMs options inspector task runId robotId) start
      (fun result finish =>
        (options.execute = true → Accounted around inspector task runId robotId
          (options.nowMs.getD wallClockMs) start result finish) ∧
        (options.execute = false → Inspectionless start result finish))
      (fun finish => finish = start ∧ (¬ Filled runId ∨ ¬ Filled robotId)) := by
  rw [runInspectionNavOnce, ends_bind, ends_mapError, InspectionRunController.init]
  by_cases hrun : Filled runId
  · by_cases hrobot : Filled robotId
    · rw [if_neg (not_not.mpr hrun), if_neg (not_not.mpr hrobot), ends_orRaise_ok,
        ends_withController]
      cases hexecute : options.execute with
      | true =>
        refine (ends_inspectOnce_execute hruntime hworks hexecute rfl rfl).mono
          (fun result outing haccounted => ⟨fun _ => haccounted, ?_⟩) (fun _ hfalse => hfalse.elim)
        simp
      | false =>
        refine (ends_inspectOnce_dryRun hruntime hexecute rfl).mono
          (fun result outing hidle => ⟨?_, fun _ => hidle⟩) (fun _ hfalse => hfalse.elim)
        simp
    · rw [if_neg (not_not.mpr hrun), if_pos hrobot, ends_orRaise_error]
      exact ⟨rfl, Or.inr hrobot⟩
  · rw [if_pos hrun, ends_orRaise_error]
    exact ⟨rfl, Or.inl hrun⟩

def temperatureInspector : Inspector where
  processor :=
    { acquire := fun _ _ => .ok temperatureObservation
      evaluator := maximumThresholdRule "p0-temperature-maximum-rule" "1.0.0" 65
      persistAttempt := fun _ _ => .ok temperatureEvidence }

lemma temperatureInspector_works : temperatureInspector.Works temperatureTask where
  arrival := by simp [temperatureInspector]
  stabilization := by simp [temperatureInspector]
  acquisition := by simp [temperatureInspector]
  evaluation := fun _ _ _ => ⟨_, rfl, rfl⟩
  evidence := fun _ _ => ⟨_, rfl⟩

theorem inspection_is_accounted_for_temperature :
    Ends (runInspectionNavOnce (Wms.willingSurroundings (.integer 1)) 1100
        { execute := true } temperatureInspector temperatureTask "run-1" "robot-1") {}
      (fun result finish =>
        (true = true → Accounted (Wms.willingSurroundings (.integer 1)) temperatureInspector
          temperatureTask "run-1" "robot-1" 1100 {} result finish) ∧
        (true = false → Inspectionless {} result finish))
      (fun finish => finish = {} ∧ (¬ Filled "run-1" ∨ ¬ Filled "robot-1")) :=
  inspection_is_accounted_for (Wms.willingSurroundings (.integer 1)) Wms.willingRuntime_responds
    temperatureInspector temperatureTask temperatureInspector_works 1100 { execute := true } "run-1"
    "robot-1" {}

end Inspection
