import AmrWarehouse.Library.Runs
import AmrWarehouse.Inspection.Controller

/-! What one operation of the controller can do: nothing, or one advance of the current attempt. -/

namespace Inspection

open Library

namespace InspectionRunController

def withAttempt (c : InspectionRunController) (attempt : PointAttempt) : InspectionRunController :=
  { c with attempt := attempt }

def activeEvaluator (c : InspectionRunController) (evaluator : Option ObservationEvaluator) :
    ObservationEvaluator :=
  evaluator.getD
    (maximumThresholdRule "p0-maximum-threshold" "1" c.task.point.item.maximumValue)

/-- What evaluation makes of an observation, as long as it keeps to the limit of the item. -/
def evaluationOf (c : InspectionRunController) (evaluator : Option ObservationEvaluator)
    (evaluatedAtMs : Option ℤ) (observation : MockObservation) : Option EvaluationResult :=
  match (c.activeEvaluator evaluator).evaluate observation (c.attempt.attemptId ++ ":finding")
    (evaluatedAtMs.getD observation.receivedAtMs) with
  | .ok result =>
    if result.maximumValue = .finite c.task.point.item.maximumValue then some result else none
  | .error _ => none

/-- The operations that are accepted, and what they make of the controller. -/
inductive Advance (c : InspectionRunController) :
    InspectionOp → InspectionRunController → Prop
  | navigating (h : c.phase = .idle) :
    Advance c .startNavigation (c.withAttempt { c.attempt with phase := .navigating })
  | arrived (h : c.phase = .navigating) (reason) :
    Advance c (.recordNavigationResult true reason) (c.withAttempt
      { c.attempt with navigationSucceeded := true, phase := .arrived, reason := none })
  | navigationFailed (h : c.phase = .navigating) (reason) :
    Advance c (.recordNavigationResult false reason) (c.withAttempt
      { c.attempt with
        navigationSucceeded := false
        phase := .navigationFailed
        reason := some (reasonOr reason "navigation_failed") })
  | stabilizing (h : c.phase = .arrived) (reason) :
    Advance c (.confirmArrival true reason) (c.withAttempt
      { c.attempt with arrivalAccepted := true, phase := .stabilizing })
  | arrivalRefused (h : c.phase = .arrived) (reason) :
    Advance c (.confirmArrival false reason) (c.withAttempt
      { c.attempt with
        arrivalAccepted := false
        phase := .inspectionFailed
        reason := some (reasonOr reason "arrival_not_accepted") })
  | acquiring (h : c.phase = .stabilizing) (reason) :
    Advance c (.completeStabilization true reason) (c.withAttempt
      { c.attempt with stabilizationSucceeded := true, phase := .acquiring })
  | unstable (h : c.phase = .stabilizing) (reason) :
    Advance c (.completeStabilization false reason) (c.withAttempt
      { c.attempt with
        stabilizationSucceeded := false
        phase := .inspectionFailed
        reason := some (reasonOr reason "stabilization_failed") })
  | validating (h : c.phase = .acquiring) (observation) :
    Advance c (.recordObservation observation) (c.withAttempt
      { c.attempt with observation := some observation, phase := .validating })
  | sensorFailed (h : c.phase = .acquiring) (reason) :
    Advance c (.recordSensorFailure reason) (c.withAttempt
      { c.attempt with phase := .sensorFailed, reason := some reason })
  | evaluating (h : c.phase = .validating) {observation}
    (ho : c.attempt.observation = some observation) (nowMs)
    (hpass : (c.qualityOf observation nowMs).passed = true) :
    Advance c (.validateObservation nowMs) (c.withAttempt
      { c.attempt with
        qualityResult := some (c.qualityOf observation nowMs)
        phase := .evaluating })
  | dataInvalid (h : c.phase = .validating) {observation}
    (ho : c.attempt.observation = some observation) (nowMs)
    (hpass : (c.qualityOf observation nowMs).passed = false) :
    Advance c (.validateObservation nowMs) (c.withAttempt
      { c.attempt with
        qualityResult := some (c.qualityOf observation nowMs)
        phase := .dataInvalid
        reason := some (c.qualityOf observation nowMs).reason })
  | evaluated (h : c.phase = .evaluating) {observation}
    (ho : c.attempt.observation = some observation) {evaluator evaluatedAtMs result}
    (hr : c.evaluationOf evaluator evaluatedAtMs observation = some result) :
    Advance c (.evaluate evaluator evaluatedAtMs) (c.withAttempt
      { c.attempt with evaluationResult := some result })
  | persisted (h : c.phase ∈ evidencePhases) (hn : c.attempt.evidenceReference = none) (evidence) :
    Advance c (.persistEvidence evidence) (c.withAttempt
      { c.attempt with evidenceReference := some evidence })
  | pointSucceeded (h : c.phase = .evaluating) (hm : missingOf c.attempt = []) :
    Advance c .completePoint (c.withAttempt { c.attempt with phase := .pointSucceeded })
  | succeeded (h : c.phase = .pointSucceeded) :
    Advance c .completeRun (c.withAttempt { c.attempt with phase := .succeeded })
  | retried (h : c.phase ∈ retryablePhases) :
    Advance c .retryPoint { c with
      completedAttempts := c.completedAttempts ++ [c.attempt.snapshot]
      attempt := newAttempt c.runId c.task (c.attempt.attemptNumber + 1) }
  | canceled (h : c.phase ∉ settledPhases) (reason) :
    Advance c (.cancel reason) (c.withAttempt
      { c.attempt with phase := .canceled, reason := some reason })

variable {c : InspectionRunController}

lemma run_requirePhase {expected : InspectionExecutionPhase} (h : c.phase = expected) :
    (requirePhase expected).run c = .ok () c := by
  simp [requirePhase, h]

lemma run_requireObservation {observation : MockObservation}
    (h : c.attempt.observation = some observation) :
    requireObservation.run c = .ok observation c := by
  simp [requireObservation, h]

@[simp] lemma run_modifyAttempt (f : PointAttempt → PointAttempt) :
    (modifyAttempt f).run c = .ok () (c.withAttempt (f c.attempt)) := rfl

lemma run_of_advance {op : InspectionOp} {c' : InspectionRunController} (h : Advance c op c') :
    op.call.run c = .ok () c' := by
  cases h with
  | navigating h => simp [InspectionOp.call, startNavigation, run_requirePhase h]
  | arrived h => simp [InspectionOp.call, recordNavigationResult, run_requirePhase h]
  | navigationFailed h => simp [InspectionOp.call, recordNavigationResult, run_requirePhase h]
  | stabilizing h => simp [InspectionOp.call, confirmArrival, run_requirePhase h]
  | arrivalRefused h => simp [InspectionOp.call, confirmArrival, run_requirePhase h]
  | acquiring h => simp [InspectionOp.call, completeStabilization, run_requirePhase h]
  | unstable h => simp [InspectionOp.call, completeStabilization, run_requirePhase h]
  | validating h => simp [InspectionOp.call, recordObservation, run_requirePhase h]
  | sensorFailed h => simp [InspectionOp.call, recordSensorFailure, run_requirePhase h]
  | evaluating h ho nowMs hpass =>
    simp [InspectionOp.call, run_discard, validateObservation, run_requirePhase h,
      run_requireObservation ho, hpass]
  | dataInvalid h ho nowMs hpass =>
    simp [InspectionOp.call, run_discard, validateObservation, run_requirePhase h,
      run_requireObservation ho, hpass]
  | evaluated h ho hr =>
    rename_i observation evaluator evaluatedAtMs result
    rw [evaluationOf] at hr
    split at hr
    · rename_i found hfound
      split_ifs at hr with hmax
      obtain rfl := Option.some.inj hr
      rw [activeEvaluator] at hfound
      simp [InspectionOp.call, run_discard, evaluate, run_requirePhase h,
        run_requireObservation ho, hfound, hmax]
    · simp at hr
  | persisted h hn evidence => simp [InspectionOp.call, persistEvidence, h, hn]
  | pointSucceeded h hm => simp [InspectionOp.call, completePoint, run_requirePhase h, hm]
  | succeeded h => simp [InspectionOp.call, completeRun, run_requirePhase h]
  | retried h => simp [InspectionOp.call, retryPoint, h]
  | canceled h reason => simp [InspectionOp.call, cancel, h]

lemma step_of_advance {op : InspectionOp} {c' : InspectionRunController} (h : Advance c op c') :
    op.step c = c' := final_of_ok (run_of_advance h)

lemma ends_of_advance {op : InspectionOp} {c' : InspectionRunController} (h : Advance c op c') :
    Ends op.call c (fun _ t => Advance c op t) (fun t => t = c) :=
  ends_of_ok (run_of_advance h) h

lemma ends_call (op : InspectionOp) :
    Ends op.call c (fun _ t => Advance c op t) (fun t => t = c) := by
  cases op with
  | startNavigation =>
    by_cases h : c.phase = .idle
    · exact ends_of_advance (.navigating h)
    · simp [InspectionOp.call, startNavigation, requirePhase, h]
  | recordNavigationResult succeeded reason =>
    by_cases h : c.phase = .navigating
    · cases succeeded with
      | true => exact ends_of_advance (.arrived h reason)
      | false => exact ends_of_advance (.navigationFailed h reason)
    · simp [InspectionOp.call, recordNavigationResult, requirePhase, h]
  | confirmArrival accepted reason =>
    by_cases h : c.phase = .arrived
    · cases accepted with
      | true => exact ends_of_advance (.stabilizing h reason)
      | false => exact ends_of_advance (.arrivalRefused h reason)
    · simp [InspectionOp.call, confirmArrival, requirePhase, h]
  | completeStabilization succeeded reason =>
    by_cases h : c.phase = .stabilizing
    · cases succeeded with
      | true => exact ends_of_advance (.acquiring h reason)
      | false => exact ends_of_advance (.unstable h reason)
    · simp [InspectionOp.call, completeStabilization, requirePhase, h]
  | recordObservation observation =>
    by_cases h : c.phase = .acquiring
    · exact ends_of_advance (.validating h observation)
    · simp [InspectionOp.call, recordObservation, requirePhase, h]
  | recordSensorFailure reason =>
    by_cases h : c.phase = .acquiring
    · exact ends_of_advance (.sensorFailed h reason)
    · simp [InspectionOp.call, recordSensorFailure, requirePhase, h]
  | validateObservation nowMs =>
    by_cases h : c.phase = .validating
    · cases ho : c.attempt.observation with
      | none =>
        simp [InspectionOp.call, validateObservation, requirePhase, requireObservation, h, ho]
      | some observation =>
        cases hpass : (c.qualityOf observation nowMs).passed with
        | true => exact ends_of_advance (.evaluating h ho nowMs hpass)
        | false => exact ends_of_advance (.dataInvalid h ho nowMs hpass)
    · simp [InspectionOp.call, validateObservation, requirePhase, h]
  | evaluate evaluator evaluatedAtMs =>
    by_cases h : c.phase = .evaluating
    · cases ho : c.attempt.observation with
      | none => simp [InspectionOp.call, evaluate, requirePhase, requireObservation, h, ho]
      | some observation =>
        cases hr : c.evaluationOf evaluator evaluatedAtMs observation with
        | some result => exact ends_of_advance (.evaluated h ho hr)
        | none =>
          rw [evaluationOf, activeEvaluator] at hr
          split at hr
          · rename_i found hfound
            have hmax : found.maximumValue ≠ .finite c.task.point.item.maximumValue := by
              simpa using hr
            simp [InspectionOp.call, evaluate, requirePhase, requireObservation, h, ho, hfound,
              hmax]
          · rename_i e hfound
            simp [InspectionOp.call, evaluate, requirePhase, requireObservation, h, ho, hfound]
    · simp [InspectionOp.call, evaluate, requirePhase, h]
  | persistEvidence evidence =>
    by_cases h : c.phase ∈ evidencePhases
    · cases hn : c.attempt.evidenceReference with
      | none => exact ends_of_advance (.persisted h hn evidence)
      | some old => simp [InspectionOp.call, persistEvidence, h, hn]
    · simp [InspectionOp.call, persistEvidence, h]
  | completePoint =>
    by_cases h : c.phase = .evaluating
    · by_cases hm : missingOf c.attempt = []
      · exact ends_of_advance (.pointSucceeded h hm)
      · simp [InspectionOp.call, completePoint, requirePhase, h, hm]
    · simp [InspectionOp.call, completePoint, requirePhase, h]
  | completeRun =>
    by_cases h : c.phase = .pointSucceeded
    · exact ends_of_advance (.succeeded h)
    · simp [InspectionOp.call, completeRun, requirePhase, h]
  | retryPoint =>
    by_cases h : c.phase ∈ retryablePhases
    · exact ends_of_advance (.retried h)
    · simp [InspectionOp.call, retryPoint, h]
  | cancel reason =>
    by_cases h : c.phase ∈ settledPhases
    · simp [InspectionOp.call, cancel, h]
    · exact ends_of_advance (.canceled h reason)

lemma step_cases (c : InspectionRunController) (op : InspectionOp) :
    op.step c = c ∨ Advance c op (op.step c) := by
  rcases (ends_call op).final_or with ⟨_, h⟩ | h
  · exact Or.inr h
  · exact Or.inl h

lemma Advance.identity {c' : InspectionRunController} {op : InspectionOp} (h : Advance c op c') :
    c'.runId = c.runId ∧ c'.robotId = c.robotId ∧ c'.task = c.task := by
  cases h <;> exact ⟨rfl, rfl, rfl⟩

lemma Advance.attemptId {c' : InspectionRunController} {op : InspectionOp} (h : Advance c op c')
    (hop : op ≠ .retryPoint) : c'.attempt.attemptId = c.attempt.attemptId := by
  cases h with
  | retried hp => exact (hop rfl).elim
  | _ => rfl

lemma step_identity (c : InspectionRunController) (op : InspectionOp) :
    (op.step c).runId = c.runId ∧ (op.step c).robotId = c.robotId ∧ (op.step c).task = c.task := by
  rcases step_cases c op with h | h
  · rw [h]
    exact ⟨rfl, rfl, rfl⟩
  · exact h.identity

lemma run_identity (start : InspectionRunController) (ops : List InspectionOp) :
    (runAll InspectionOp.step start ops).runId = start.runId ∧
      (runAll InspectionOp.step start ops).robotId = start.robotId ∧
      (runAll InspectionOp.step start ops).task = start.task := by
  induction ops generalizing start with
  | nil => exact ⟨rfl, rfl, rfl⟩
  | cons op ops ih =>
    obtain ⟨hrun, hrobot, htask⟩ := step_identity start op
    obtain ⟨hrun', hrobot', htask'⟩ := ih (op.step start)
    exact ⟨hrun'.trans hrun, hrobot'.trans hrobot, htask'.trans htask⟩

lemma qualityOf_passed {observation : MockObservation} {nowMs : ℤ}
    (h : (c.qualityOf observation nowMs).passed = true) :
    (observation.itemId = c.task.point.item.itemId ∧ observation.robotId = c.robotId ∧
      observation.pointId = c.task.point.pointId ∧ observation.frameId = c.task.point.frameId) ∧
    observation.value.isFinite = true ∧ observation.complete = true ∧
    observation.capturedAtMs ≤ observation.receivedAtMs ∧ observation.receivedAtMs ≤ nowMs ∧
    nowMs - observation.capturedAtMs ≤ c.task.point.maximumObservationAgeMs := by
  rw [qualityOf] at h
  split_ifs at h with h1 h2 h3 h4
  · simp [QualityResult.passed] at h
  · simp [QualityResult.passed] at h
  · simp [QualityResult.passed] at h
  · push Not at h1
    exact ⟨h1.1, by simpa using h1.2, by simpa using h2, h3.1, h3.2, by omega⟩
  · simp [QualityResult.passed] at h

end InspectionRunController

end Inspection
