import AmrWarehouse.Inspection.BackedReports

/-! One inspection with its evidence on disk. -/

namespace Inspection

open Library InspectionRunController

inductive StoredNavError
  | nav (e : NavError)
  | evidence (e : EvidenceError)
  deriving DecidableEq

structure StoredMission where
  mission : Mission
  files : FileSystem

structure StoredOuting where
  outing : Outing
  files : FileSystem

def StoredOuting.archive (stored : StoredOuting) : Archive := ⟨stored.outing.visit, stored.files⟩

def StoredNavError.ofPipeline : PipelineError → StoredNavError
  | .inspection e => .nav (.inspection e)
  | .evidence e => .evidence e

def atOuting {α : Type} (call : EStateM NavError Outing α) :
    EStateM StoredNavError StoredOuting α :=
  focus StoredOuting.outing (fun outing stored => { stored with outing := outing })
    (mapError StoredNavError.nav call)

def atArchive {α : Type} (call : EStateM PipelineError Archive α) :
    EStateM StoredNavError StoredOuting α :=
  focus StoredOuting.archive
    (fun archive stored =>
      ⟨{ stored.outing with visit := archive.visit }, archive.files⟩)
    (mapError StoredNavError.ofPipeline call)

structure StoringInspector where
  processor : StoringProcessor
  arrivalVerifier : Option ArrivalVerifier := none
  stabilizer : Option Stabilizer := none

namespace StoringInspector

variable (around : Wms.Surroundings) (options : NavOptions) (inspector : StoringInspector)
  (fault : Option IoFault) (task : InspectionTask) (timestampMs : ℤ)

def finishFailed (result : NavResult) (message : String) :
    EStateM StoredNavError StoredOuting NavResult := do
  let report ← atArchive (inspector.processor.finalizeCurrentFailure fault timestampMs)
  return finishResult result report message

def stabilizeAndProcess (result : NavResult) : EStateM StoredNavError StoredOuting NavResult := do
  atOuting (onVisit (enter .stabilization))
  let stabilization ← atOuting
    (onVisit (orRaise (inspector.stabilizer.getD deterministicStabilizer task)))
  let result := { result with stabilizationResult := some stabilization }
  atOuting (onVisit (onController
    (InspectionRunController.completeStabilization stabilization.passed stabilization.reason)))
  if stabilization.passed then
    let report ← atArchive (inspector.processor.processCurrentAttempt fault timestampMs)
    return finishResult result report "Inspection processing completed."
  else inspector.finishFailed fault timestampMs result stabilization.reason

def verifyArrival (result : NavResult) (navigation : Wms.NavigationResult) :
    EStateM StoredNavError StoredOuting NavResult := do
  atOuting (onVisit (enter .arrival))
  let arrival ← atOuting (onVisit
    (orRaise (inspector.arrivalVerifier.getD deterministicArrivalVerifier task navigation)))
  let result := { result with arrivalResult := some arrival }
  atOuting (onVisit (onController
    (InspectionRunController.confirmArrival arrival.passed arrival.reason)))
  if arrival.passed then inspector.stabilizeAndProcess fault task timestampMs result
  else inspector.finishFailed fault timestampMs result arrival.reason

def navigateAndInspect (result : NavResult) : EStateM StoredNavError StoredOuting NavResult := do
  atOuting (onVisit (onController InspectionRunController.startNavigation))
  let result := { result with goalSent := true }
  atOuting (onVisit (enter .navigation))
  let navigation ← atOuting (onRuntime
    (Wms.navigateToPose around result.resolvedPose options.navigationTimeoutSec))
  let result := { result with navigationResult := some navigation }
  atOuting (onVisit (onController
    (InspectionRunController.recordNavigationResult navigation.succeeded navigation.reason)))
  if navigation.succeeded then inspector.verifyArrival fault task timestampMs result navigation
  else inspector.finishFailed fault timestampMs result navigation.reason

def inspectOnce (result : NavResult)
    (sleepFn : ℚ → Wms.Call Wms.Course Unit := Wms.sleep around) :
    EStateM StoredNavError StoredOuting NavResult := do
  let (readyGate, result) ← atOuting (checkGate around options result sleepFn)
  if readyGate.ready = false then
    let report ← atOuting (currentReport task timestampMs)
    return { result with
      outcome := some (if options.execute then .executeNotReadyTimeout else .dryRunNotReady)
      message := s!"Nav2 ready gate not satisfied: {readyGate.reason}"
      exitCode := if options.execute then 1 else 0
      inspectionReport := some report }
  else if options.execute = false then
    let report ← atOuting (currentReport task timestampMs)
    return { result with
      outcome := some .dryRunReady
      message := "Dry-run only: ready gate satisfied; navigation and inspection not run."
      inspectionReport := some report }
  else inspector.navigateAndInspect around options fault task timestampMs result

def withStoredController {α : Type} (controller : InspectionRunController)
    (call : EStateM StoredNavError StoredOuting α) : EStateM StoredNavError StoredMission α :=
  fun stored =>
    match call.run
        ⟨⟨stored.mission.course, ⟨controller, stored.mission.entered⟩⟩, stored.files⟩ with
    | .ok a t => .ok a ⟨⟨t.outing.course, t.outing.visit.entered⟩, t.files⟩
    | .error e t => .error e ⟨⟨t.outing.course, t.outing.visit.entered⟩, t.files⟩

/-- `run_inspection_nav_once` with a processor that stores on disk. -/
def runInspectionNavOnce (wallClockMs : ℤ) (runId robotId : String)
    (sleepFn : ℚ → Wms.Call Wms.Course Unit := Wms.sleep around) :
    EStateM StoredNavError StoredMission NavResult := do
  let controller ← mapError (fun e => StoredNavError.nav (.inspection e))
    (orRaise (InspectionRunController.init runId robotId task))
  withStoredController controller
    (inspector.inspectOnce around options fault task (options.nowMs.getD wallClockMs)
      { mode := if options.execute then .execute else .dryRun
        runId := runId
        taskId := task.taskId
        robotId := robotId
        targetName := task.point.pointId
        resolvedPose := resolvedPoseOf task }
      sleepFn)

end StoringInspector

section Requests

variable {α β : Type}

def KeepsRequest (call : EStateM NavError Outing α) : Prop :=
  ∀ outing, Ends call outing
    (fun _ outing' => InspectionPointProcessor.acquisitionRequest outing'.visit.controller =
      InspectionPointProcessor.acquisitionRequest outing.visit.controller) (fun _ => True)

lemma keepsRequest_onVisit {call : Call Visit α} (h : SameRequest call) :
    KeepsRequest (onVisit call) := by
  intro outing
  rw [ends_onVisit]
  exact h outing.visit

lemma keepsRequest_onRuntime (call : Wms.Call Wms.Course α) : KeepsRequest (onRuntime call) := by
  intro outing
  rw [onRuntime, ends_focus]
  exact ends_self.mono (fun _ _ _ => rfl) (fun _ _ => trivial)

lemma sameRequest_orRaise (x : Except InspectionError α) : SameRequest (orRaise x) := by
  intro visit
  cases x with
  | ok a => exact rfl
  | error e => trivial

lemma keepsRequest_pure (a : α) : KeepsRequest (pure a) := fun _ => rfl

lemma keepsRequest_bind {m : EStateM NavError Outing α} {f : α → EStateM NavError Outing β}
    (hm : KeepsRequest m) (hf : ∀ a, KeepsRequest (f a)) : KeepsRequest (m >>= f) := by
  intro outing
  rw [ends_bind]
  refine (hm outing).mono (fun a outing' h => ?_) (fun _ h => h)
  exact (hf a outing').mono (fun _ _ h' => h'.trans h) (fun _ h' => h')

lemma keepsRequest_checkGate (around : Wms.Surroundings) (options : NavOptions)
    (result : NavResult) : KeepsRequest (checkGate around options result) := by
  refine keepsRequest_bind (keepsRequest_onVisit (sameRequest_enter _)) fun _ => ?_
  by_cases hexecute : options.execute = true
  · rw [if_pos hexecute]
    exact keepsRequest_bind (keepsRequest_onRuntime _) fun _ => keepsRequest_pure _
  · rw [if_neg hexecute]
    exact keepsRequest_bind (keepsRequest_onRuntime _) fun _ => keepsRequest_pure _

end Requests

section Refinement

variable {α : Type} {render : EvidenceError → InspectionError} {fault : Option IoFault}
  {around : Wms.Surroundings} {options : NavOptions} {inspector : StoringInspector}
  {answering : InspectionPointProcessor} {task : InspectionTask} {nowMs : ℤ}
  {stored stored' : StoredOuting} {result : NavResult}

def StoredNavError.seen (render : EvidenceError → InspectionError) : StoredNavError → NavError
  | nav e => e
  | evidence e => .inspection (render e)

def StoringInspector.answered (inspector : StoringInspector)
    (answering : InspectionPointProcessor) : Inspector :=
  ⟨answering, inspector.arrivalVerifier, inspector.stabilizer⟩

lemma refines_atOuting (call : EStateM NavError Outing α) :
    Refines StoredOuting.outing (StoredNavError.seen render) (atOuting call) stored call :=
  refines_focus (fun _ _ => rfl) (fun _ => rfl) call stored

lemma refines_atArchive {call : EStateM PipelineError Archive α} {p : Call Visit α}
    (h : Refines Archive.visit (PipelineError.seen render) call stored.archive p) :
    Refines StoredOuting.outing (StoredNavError.seen render) (atArchive call) stored (onVisit p) :=
  h.focus rfl (fun _ => rfl) (fun e => by cases e <;> rfl)

lemma Answers.atOuting {call : EStateM NavError Outing α} {a : α}
    (h : Answers render inspector.processor fault stored.archive.request stored.files answering)
    (hkeeps : KeepsRequest call) (hrun : (atOuting call).run stored = .ok a stored') :
    Answers render inspector.processor fault stored'.archive.request stored'.files answering := by
  have hends : Ends (Inspection.atOuting call) stored (fun _ stored' =>
      stored'.archive.request = stored.archive.request ∧ stored'.files = stored.files)
      (fun _ => True) := by
    rw [Inspection.atOuting, ends_focus, ends_mapError]
    exact (hkeeps stored.outing).mono (fun _ _ h => ⟨h, rfl⟩) (fun _ _ => trivial)
  obtain ⟨hrequest, hfiles⟩ := hends.of_ok hrun
  rwa [hrequest, hfiles]

lemma refines_finishFailed {message : String}
    (h : Answers render inspector.processor fault stored.archive.request stored.files answering) :
    Refines StoredOuting.outing (StoredNavError.seen render)
      (inspector.finishFailed fault nowMs result message) stored
      (finishFailed (inspector.answered answering) nowMs result message) :=
  (refines_atArchive (refines_finalizeCurrentFailure h)).bind fun _ _ _ => refines_pure _

lemma refines_stabilizeAndProcess
    (h : Answers render inspector.processor fault stored.archive.request stored.files answering) :
    Refines StoredOuting.outing (StoredNavError.seen render)
      (inspector.stabilizeAndProcess fault task nowMs result) stored
      (stabilizeAndProcess (inspector.answered answering) task nowMs result) := by
  refine (refines_atOuting _).bind fun _ entered hentered => ?_
  have hentered := h.atOuting (keepsRequest_onVisit (sameRequest_enter _)) hentered
  refine (refines_atOuting _).bind fun check checked hchecked => ?_
  have hchecked := hentered.atOuting (keepsRequest_onVisit (sameRequest_orRaise _)) hchecked
  refine (refines_atOuting _).bind fun _ completed hcompleted => ?_
  have hcompleted := hchecked.atOuting (keepsRequest_onVisit (sameRequest_call
    (.completeStabilization check.passed check.reason) (by simp))) hcompleted
  refine refines_ite (fun _ => ?_) (fun _ => refines_finishFailed hcompleted)
  exact (refines_atArchive (refines_processCurrentAttempt hcompleted)).bind
    fun _ _ _ => refines_pure _

lemma refines_verifyArrival {navigation : Wms.NavigationResult}
    (h : Answers render inspector.processor fault stored.archive.request stored.files answering) :
    Refines StoredOuting.outing (StoredNavError.seen render)
      (inspector.verifyArrival fault task nowMs result navigation) stored
      (verifyArrival (inspector.answered answering) task nowMs result navigation) := by
  refine (refines_atOuting _).bind fun _ entered hentered => ?_
  have hentered := h.atOuting (keepsRequest_onVisit (sameRequest_enter _)) hentered
  refine (refines_atOuting _).bind fun check checked hchecked => ?_
  have hchecked := hentered.atOuting (keepsRequest_onVisit (sameRequest_orRaise _)) hchecked
  refine (refines_atOuting _).bind fun _ confirmed hconfirmed => ?_
  have hconfirmed := hchecked.atOuting (keepsRequest_onVisit (sameRequest_call
    (.confirmArrival check.passed check.reason) (by simp))) hconfirmed
  exact refines_ite (fun _ => refines_stabilizeAndProcess hconfirmed)
    (fun _ => refines_finishFailed hconfirmed)

lemma refines_navigateAndInspect
    (h : Answers render inspector.processor fault stored.archive.request stored.files answering) :
    Refines StoredOuting.outing (StoredNavError.seen render)
      (inspector.navigateAndInspect around options fault task nowMs result) stored
      (navigateAndInspect around options (inspector.answered answering) task nowMs result) := by
  refine (refines_atOuting _).bind fun _ started hstarted => ?_
  have hstarted := h.atOuting (keepsRequest_onVisit (sameRequest_call .startNavigation (by simp)))
    hstarted
  refine (refines_atOuting _).bind fun _ entered hentered => ?_
  have hentered := hstarted.atOuting (keepsRequest_onVisit (sameRequest_enter _)) hentered
  refine (refines_atOuting _).bind fun navigation navigated hnavigated => ?_
  have hnavigated := hentered.atOuting (keepsRequest_onRuntime _) hnavigated
  refine (refines_atOuting _).bind fun _ recorded hrecorded => ?_
  have hrecorded := hnavigated.atOuting (keepsRequest_onVisit (sameRequest_call
    (.recordNavigationResult navigation.succeeded navigation.reason) (by simp))) hrecorded
  exact refines_ite (fun _ => refines_verifyArrival hrecorded)
    (fun _ => refines_finishFailed hrecorded)

lemma refines_inspectOnce
    (h : Answers render inspector.processor fault stored.archive.request stored.files answering) :
    Refines StoredOuting.outing (StoredNavError.seen render)
      (inspector.inspectOnce around options fault task nowMs result) stored
      (inspectOnce around options (inspector.answered answering) task nowMs result) := by
  refine (refines_atOuting _).bind fun checked gated hgated => ?_
  obtain ⟨readyGate, result'⟩ := checked
  have hgated := h.atOuting (keepsRequest_checkGate around options result) hgated
  refine refines_ite (fun _ => ?_) (fun _ => refines_ite (fun _ => ?_) (fun _ => ?_))
  · exact (refines_atOuting _).bind fun _ _ _ => refines_pure _
  · exact (refines_atOuting _).bind fun _ _ _ => refines_pure _
  · exact refines_navigateAndInspect hgated

lemma refines_withStoredController {controller : InspectionRunController} {mission : StoredMission}
    {call : EStateM StoredNavError StoredOuting α} {p : EStateM NavError Outing α}
    (h : Refines StoredOuting.outing (StoredNavError.seen render) call
      ⟨⟨mission.mission.course, ⟨controller, mission.mission.entered⟩⟩, mission.files⟩ p) :
    Refines StoredMission.mission (StoredNavError.seen render)
      (StoringInspector.withStoredController controller call) mission
      (withController controller p) := by
  rw [Refines] at h ⊢
  simp only [withController, StoringInspector.withStoredController, EStateM.run] at h ⊢
  rw [h]
  cases call ⟨⟨mission.mission.course, ⟨controller, mission.mission.entered⟩⟩,
    mission.files⟩ <;> rfl

/-- With the disk out of view, an inspection that stores its evidence is one whose processor is
given the answers of the store. -/
theorem refines_runInspectionNavOnce {mission : StoredMission} {runId robotId : String}
    {wallClockMs : ℤ}
    (h : Answers render inspector.processor fault
      (InspectionPointProcessor.acquisitionRequest (startedController task runId robotId))
      mission.files answering) :
    Refines StoredMission.mission (StoredNavError.seen render)
      (inspector.runInspectionNavOnce around options fault task wallClockMs runId robotId) mission
      (runInspectionNavOnce around wallClockMs options (inspector.answered answering) task runId
        robotId) := by
  rw [StoringInspector.runInspectionNavOnce, runInspectionNavOnce]
  cases hinit : InspectionRunController.init runId robotId task with
  | error e => exact rfl
  | ok controller =>
    obtain rfl : controller = startedController task runId robotId := by
      rw [InspectionRunController.init] at hinit
      split_ifs at hinit
      exact (Except.ok.inj hinit).symm
    exact refines_withStoredController (refines_inspectOnce h)

end Refinement

end Inspection
