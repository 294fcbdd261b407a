import AmrWarehouse.Inspection.ControllerSteps

/-! A point that succeeded was inspected: what its attempt gathered on the way is still there. -/

namespace Inspection

open Library InspectionRunController

/-- How far an attempt has come. Failed and canceled attempts have come nowhere. -/
def progress : InspectionExecutionPhase → ℕ
  | .navigating => 1
  | .arrived => 2
  | .stabilizing => 3
  | .acquiring => 4
  | .validating => 5
  | .evaluating => 6
  | .pointSucceeded => 7
  | .succeeded => 8
  | _ => 0

/-- What the current attempt holds, where `checked` is what validation found of an observation. -/
structure Gathered (c : InspectionRunController) (checked : MockObservation → Prop) : Prop where
  navigation : 2 ≤ progress c.attempt.phase → c.attempt.navigationSucceeded = true
  arrival : 3 ≤ progress c.attempt.phase → c.attempt.arrivalAccepted = true
  stabilization : 4 ≤ progress c.attempt.phase → c.attempt.stabilizationSucceeded = true
  observed : 6 ≤ progress c.attempt.phase →
    ∃ observation, c.attempt.observation = some observation ∧ checked observation
  passed : 6 ≤ progress c.attempt.phase →
    ∃ quality, c.attempt.qualityResult = some quality ∧ quality.passed = true
  evaluated : ∀ result, c.attempt.evaluationResult = some result →
    result.maximumValue = .finite c.task.point.item.maximumValue ∧
      (6 ≤ progress c.attempt.phase ∨ c.attempt.phase = .canceled)
  complete : 7 ≤ progress c.attempt.phase →
    c.attempt.evaluationResult.isSome ∧ c.attempt.evidenceReference.isSome

variable {c c' : InspectionRunController} {checked checked' : MockObservation → Prop}
variable {op : InspectionOp}

lemma maximumValue_of_evaluationOf {evaluator : Option ObservationEvaluator}
    {evaluatedAtMs : Option ℤ} {observation : MockObservation} {result : EvaluationResult}
    (h : c.evaluationOf evaluator evaluatedAtMs observation = some result) :
    result.maximumValue = .finite c.task.point.item.maximumValue := by
  rw [evaluationOf] at h
  split at h
  · split_ifs at h with hmax
    rwa [← Option.some.inj h]
  · simp at h

lemma complete_of_nothing_missing (h : missingOf c.attempt = []) :
    c.attempt.evaluationResult.isSome ∧ c.attempt.evidenceReference.isSome := by
  simp only [missingOf, List.append_eq_nil_iff, ite_eq_left_iff] at h
  constructor
  · by_contra hn
    simpa using h.1.2 hn
  · by_contra hn
    simpa using h.2 hn

lemma Gathered.mono (h : Gathered c checked) (hmono : ∀ o, checked o → checked' o) :
    Gathered c checked' :=
  { h with
    observed := fun hp => by
      obtain ⟨observation, ho, hchecked⟩ := h.observed hp
      exact ⟨observation, ho, hmono observation hchecked⟩ }

lemma Gathered.advance (h : Gathered c checked)
    (hmono : c'.attempt.attemptId = c.attempt.attemptId → ∀ o, checked o → checked' o)
    (hvalidated : ∀ nowMs observation, op = .validateObservation nowMs → c.phase = .validating →
      c.attempt.observation = some observation → (c.qualityOf observation nowMs).passed = true →
      checked' observation)
    (hstep : Advance c op c') : Gathered c' checked' := by
  cases hstep with
  | retried hp => constructor <;> simp [newAttempt, progress]
  | evaluating hp ho nowMs hpass =>
    have hchecked := hvalidated nowMs _ rfl hp ho hpass
    obtain ⟨hn, ha, hs, -, -, he, hc⟩ := h
    rw [phase] at hp
    rw [hp] at hn ha hs he hc
    constructor <;> simp_all [progress, withAttempt]
  | evaluated hp ho hr =>
    have hmax := maximumValue_of_evaluationOf hr
    obtain ⟨hn, ha, hs, hobs, hq, he, hc⟩ := h.mono (hmono rfl)
    rw [phase] at hp
    rw [hp] at hn ha hs hobs hq he hc
    constructor <;> simp_all [progress, withAttempt]
  | persisted hp hn evidence =>
    have hsame := h.mono (hmono rfl)
    exact { hsame with complete := fun hle => ⟨(h.complete hle).1, rfl⟩ }
  | pointSucceeded hp hm =>
    have hcomplete := complete_of_nothing_missing hm
    obtain ⟨hn, ha, hs, hobs, hq, he, hc⟩ := h.mono (hmono rfl)
    rw [phase] at hp
    rw [hp] at hn ha hs hobs hq he hc
    constructor <;> simp_all [progress, withAttempt]
  | canceled hp reason =>
    obtain ⟨-, -, -, -, -, he, -⟩ := h
    constructor <;> simp_all [progress, withAttempt]
  | navigating hp | arrived hp | navigationFailed hp | stabilizing hp | arrivalRefused hp
  | acquiring hp | unstable hp | validating hp | sensorFailed hp | dataInvalid hp
  | succeeded hp =>
    obtain ⟨hn, ha, hs, hobs, hq, he, hc⟩ := h.mono (hmono rfl)
    rw [phase] at hp
    rw [hp] at hn ha hs hobs hq he hc
    constructor <;> simp_all [progress, withAttempt]

lemma gathered_init {runId robotId : String} {task : InspectionTask}
    (h : init runId robotId task = .ok c) : Gathered c checked := by
  rw [init] at h
  split_ifs at h
  obtain rfl := Except.ok.inj h
  constructor <;> simp [newAttempt, progress]

/-- An observation of the attempt that a call of the run found valid, at the time it was given. -/
def ValidatedIn (start : InspectionRunController) (ops : List InspectionOp) (attemptId : String)
    (observation : MockObservation) : Prop :=
  ∃ earlier nowMs later, ops = earlier ++ .validateObservation nowMs :: later ∧
    (runAll InspectionOp.step start earlier).phase = .validating ∧
    (runAll InspectionOp.step start earlier).attempt.attemptId = attemptId ∧
    (runAll InspectionOp.step start earlier).attempt.observation = some observation ∧
    ((runAll InspectionOp.step start earlier).qualityOf observation nowMs).passed = true

lemma ValidatedIn.later {start : InspectionRunController} {ops : List InspectionOp}
    {attemptId : String} {observation : MockObservation}
    (h : ValidatedIn start ops attemptId observation) (op : InspectionOp) :
    ValidatedIn start (ops ++ [op]) attemptId observation := by
  obtain ⟨earlier, nowMs, later, rfl, hvalidated⟩ := h
  exact ⟨earlier, nowMs, later ++ [op], by simp, hvalidated⟩

lemma gathered_run {start : InspectionRunController} {runId robotId : String}
    {task : InspectionTask} (hstart : init runId robotId task = .ok start)
    (ops : List InspectionOp) :
    Gathered (runAll InspectionOp.step start ops)
      (ValidatedIn start ops (runAll InspectionOp.step start ops).attempt.attemptId) := by
  refine runAll_invariant
    (fun ops c => Gathered c (ValidatedIn start ops c.attempt.attemptId)) ?_ ?_ ops
  · exact gathered_init hstart
  · intro past op h
    rcases step_cases (runAll InspectionOp.step start past) op with hsame | hstep
    · rw [hsame]
      exact h.mono fun o ho => ho.later op
    · refine h.advance (fun hid o ho => ?_) (fun nowMs o hop hphase ho hpass => ?_) hstep
      · rw [hid]
        exact ho.later op
      · subst hop
        exact ⟨past, nowMs, [], rfl, hphase, (hstep.attemptId (by simp)).symm, ho, hpass⟩

theorem point_success_is_inspected (runId robotId : String) (task : InspectionTask)
    (start : InspectionRunController) (hstart : init runId robotId task = .ok start)
    (ops : List InspectionOp)
    (hphase : (runAll InspectionOp.step start ops).phase = .pointSucceeded ∨
      (runAll InspectionOp.step start ops).phase = .succeeded) :
    let attempt := (runAll InspectionOp.step start ops).attempt
    attempt.navigationSucceeded = true ∧ attempt.arrivalAccepted = true ∧
    attempt.stabilizationSucceeded = true ∧
    (∃ observation, attempt.observation = some observation ∧
      observation.robotId = robotId ∧ observation.pointId = task.point.pointId ∧
      observation.frameId = task.point.frameId ∧ observation.itemId = task.point.item.itemId ∧
      observation.complete = true ∧ observation.value.isFinite = true ∧
      ∃ earlier nowMs later, ops = earlier ++ .validateObservation nowMs :: later ∧
        (runAll InspectionOp.step start earlier).phase = .validating ∧
        (runAll InspectionOp.step start earlier).attempt.attemptId = attempt.attemptId ∧
        (runAll InspectionOp.step start earlier).attempt.observation = some observation ∧
        observation.capturedAtMs ≤ observation.receivedAtMs ∧
        observation.receivedAtMs ≤ nowMs ∧
        nowMs - observation.capturedAtMs ≤ task.point.maximumObservationAgeMs) ∧
    (∃ quality, attempt.qualityResult = some quality ∧ quality.passed = true) ∧
    (∃ evaluation, attempt.evaluationResult = some evaluation ∧
      evaluation.maximumValue = .finite task.point.item.maximumValue) ∧
    attempt.evidenceReference.isSome = true := by
  intro attempt
  have hfar : 7 ≤ progress (runAll InspectionOp.step start ops).attempt.phase := by
    rcases hphase with h | h <;> rw [phase] at h <;> rw [h] <;> decide
  have hgathered := gathered_run hstart ops
  obtain ⟨evaluation, heval⟩ := Option.isSome_iff_exists.mp (hgathered.complete hfar).1
  obtain ⟨observation, ho, earlier, nowMs, later, hops, hvalidating, hid, hearlier, hpass⟩ :=
    hgathered.observed (by omega)
  have hstarted : start.robotId = robotId ∧ start.task = task := by
    rw [init] at hstart
    split_ifs at hstart
    obtain rfl := Except.ok.inj hstart
    exact ⟨rfl, rfl⟩
  obtain ⟨-, hrobot, htask⟩ := run_identity start earlier
  obtain ⟨⟨hitem, hrobot', hpoint, hframe⟩, hfinite, hcomplete, hcaptured, hreceived, hage⟩ :=
    qualityOf_passed hpass
  rw [htask, hstarted.2] at hitem hpoint hframe hage
  rw [hrobot, hstarted.1] at hrobot'
  have hmax := (hgathered.evaluated evaluation heval).1
  rw [(run_identity start ops).2.2, hstarted.2] at hmax
  refine ⟨hgathered.navigation (by omega), hgathered.arrival (by omega),
    hgathered.stabilization (by omega), ⟨observation, ho, hrobot', hpoint, hframe, hitem, hcomplete,
      hfinite, earlier, nowMs, later, hops, hvalidating, hid, hearlier, hcaptured, hreceived,
      hage⟩, hgathered.passed (by omega), ⟨evaluation, heval, hmax⟩, (hgathered.complete hfar).2⟩

def temperatureTask : InspectionTask where
  taskId := "inspection-task-1"
  routeId := "inspection-route-1"
  priority := "normal"
  point :=
    { pointId := "point-a"
      frameId := "map"
      x := 1
      y := 2
      yaw := 0
      maximumObservationAgeMs := 500
      item :=
        { itemId := "temperature-a"
          kind := "temperature"
          maximumValue := 65
          itemId_filled := by decide +kernel
          kind_filled := by decide +kernel }
      pointId_filled := by decide +kernel
      frameId_filled := by decide +kernel
      age_nonneg := by decide }
  taskId_filled := by decide +kernel
  routeId_filled := by decide +kernel
  priority_filled := by decide +kernel

def temperatureObservation : MockObservation where
  observationId := "observation-1"
  itemId := "temperature-a"
  robotId := "robot-1"
  pointId := "point-a"
  sensorId := "mock-temperature-sensor"
  frameId := "map"
  capturedAtMs := 1000
  receivedAtMs := 1050
  value := .finite 60
  filled := by decide +kernel

def temperatureEvidence : EvidenceReference where
  uri := "artifact://run-1/point-a/attempt-1.json"
  sha256 := String.ofList (List.replicate 64 'a')
  uri_filled := by decide +kernel
  sha256_length := by rw [String.length_ofList, List.length_replicate]
  sha256_digits := by
    rw [String.toList_ofList]
    intro c hc
    rw [List.eq_of_mem_replicate hc]
    decide

def temperatureStart : InspectionRunController where
  runId := "run-1"
  robotId := "robot-1"
  task := temperatureTask
  completedAttempts := []
  attempt := newAttempt "run-1" temperatureTask 1

def temperatureOps : List InspectionOp :=
  [.startNavigation, .recordNavigationResult true none, .confirmArrival true none,
    .completeStabilization true none, .recordObservation temperatureObservation,
    .validateObservation 1100, .evaluate none none, .persistEvidence temperatureEvidence]

def temperatureRun : List InspectionOp := temperatureOps ++ [.completePoint, .completeRun]

lemma temperature_started : init "run-1" "robot-1" temperatureTask = .ok temperatureStart := by
  decide +kernel

lemma temperature_succeeded :
    (runAll InspectionOp.step temperatureStart temperatureRun).phase = .succeeded := by
  decide +kernel

theorem point_success_is_inspected_temperature :
    (runAll InspectionOp.step temperatureStart temperatureRun).attempt.evidenceReference.isSome =
      true := by
  have hphase : (runAll InspectionOp.step temperatureStart temperatureRun).phase = .pointSucceeded ∨
      (runAll InspectionOp.step temperatureStart temperatureRun).phase = .succeeded :=
    Or.inr temperature_succeeded
  obtain ⟨-, -, -, -, -, -, hevidence⟩ := point_success_is_inspected "run-1" "robot-1"
    temperatureTask temperatureStart temperature_started temperatureRun hphase
  exact hevidence

end Inspection
