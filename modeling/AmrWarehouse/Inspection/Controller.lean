import AmrWarehouse.Library.Calls
import AmrWarehouse.Inspection.Models

/-! The lifecycle of one inspection point: attempts, their phases, and the thirteen operations. -/

namespace Inspection

open Library

inductive ErrorKind
  | invalidInspectionTransition
  | valueError
  | other (name : String)
  deriving DecidableEq, Repr

structure InspectionError where
  kind : ErrorKind
  message : String
  deriving DecidableEq, Repr

abbrev Call (σ α : Type) := EStateM InspectionError σ α

inductive InspectionExecutionPhase
  | idle
  | navigating
  | arrived
  | stabilizing
  | acquiring
  | validating
  | evaluating
  | pointSucceeded
  | succeeded
  | navigationFailed
  | sensorFailed
  | dataInvalid
  | inspectionFailed
  | canceled
  deriving DecidableEq, Repr

namespace InspectionExecutionPhase

def value : InspectionExecutionPhase → String
  | idle => "idle"
  | navigating => "navigating"
  | arrived => "arrived"
  | stabilizing => "stabilizing"
  | acquiring => "acquiring"
  | validating => "validating"
  | evaluating => "evaluating"
  | pointSucceeded => "point_succeeded"
  | succeeded => "succeeded"
  | navigationFailed => "navigation_failed"
  | sensorFailed => "sensor_failed"
  | dataInvalid => "data_invalid"
  | inspectionFailed => "inspection_failed"
  | canceled => "canceled"

end InspectionExecutionPhase

def retryablePhases : List InspectionExecutionPhase :=
  [.navigationFailed, .sensorFailed, .dataInvalid, .inspectionFailed]

structure PointAttempt where
  attemptId : String
  attemptNumber : ℕ
  pointId : String
  phase : InspectionExecutionPhase := .idle
  navigationSucceeded : Bool := false
  arrivalAccepted : Bool := false
  stabilizationSucceeded : Bool := false
  observation : Option MockObservation := none
  qualityResult : Option QualityResult := none
  evaluationResult : Option EvaluationResult := none
  evidenceReference : Option EvidenceReference := none
  reason : Option String := none
  deriving DecidableEq

def PointAttempt.snapshot (attempt : PointAttempt) : PointAttemptSnapshot where
  attemptId := attempt.attemptId
  attemptNumber := attempt.attemptNumber
  pointId := attempt.pointId
  executionPhase := attempt.phase.value
  navigationSucceeded := attempt.navigationSucceeded
  arrivalAccepted := attempt.arrivalAccepted
  stabilizationSucceeded := attempt.stabilizationSucceeded
  observation := attempt.observation
  qualityResult := attempt.qualityResult
  evaluationResult := attempt.evaluationResult
  evidenceReference := attempt.evidenceReference
  reason := attempt.reason

/-- `evaluate`: the observation, the id of the finding and the time, to a result or an error. -/
structure ObservationEvaluator where
  evaluate : MockObservation → String → ℤ → Except InspectionError EvaluationResult

def maximumThresholdRule (evaluatorId version : String) (maximumValue : ℚ) :
    ObservationEvaluator where
  evaluate observation findingId evaluatedAtMs :=
    let anomalous := (Floating.finite maximumValue).lt observation.value
    .ok
      { observationId := observation.observationId
        measuredValue := observation.value
        maximumValue := .finite maximumValue
        evaluatorId := evaluatorId
        evaluatorVersion := version
        evaluatedAtMs := evaluatedAtMs
        finding :=
          { findingId := findingId
            outcome := if anomalous then .anomalous else .normal
            reason := if anomalous then "value_above_maximum" else "value_within_maximum"
            severity := if anomalous then some .warning else none } }

structure InspectionRunController where
  runId : String
  robotId : String
  task : InspectionTask
  completedAttempts : List PointAttemptSnapshot
  attempt : PointAttempt
  deriving DecidableEq

/-- `reason or default`: an empty text counts as missing. -/
def reasonOr (reason : Option String) (default : String) : String :=
  match reason with
  | some text => if text = "" then default else text
  | none => default

def attemptIdOf (runId pointId : String) (attemptNumber : ℕ) : String :=
  runId ++ ":" ++ pointId ++ ":attempt-" ++ toString attemptNumber

def notAllowed (operation : String) : InspectionError :=
  ⟨.invalidInspectionTransition, s!"Inspection operation is not allowed: {operation}."⟩

namespace InspectionRunController

def newAttempt (runId : String) (task : InspectionTask) (attemptNumber : ℕ) : PointAttempt where
  attemptId := attemptIdOf runId task.point.pointId attemptNumber
  attemptNumber := attemptNumber
  pointId := task.point.pointId

def init (runId robotId : String) (task : InspectionTask) :
    Except InspectionError InspectionRunController :=
  if ¬ Filled runId then .error ⟨.valueError, "run_id must not be empty."⟩
  else if ¬ Filled robotId then .error ⟨.valueError, "robot_id must not be empty."⟩
  else .ok ⟨runId, robotId, task, [], newAttempt runId task 1⟩

def phase (controller : InspectionRunController) : InspectionExecutionPhase :=
  controller.attempt.phase

def snapshot (controller : InspectionRunController) : InspectionRunSnapshot where
  runId := controller.runId
  taskId := controller.task.taskId
  robotId := controller.robotId
  pointId := controller.task.point.pointId
  executionPhase := controller.phase.value
  attempts := controller.completedAttempts ++ [controller.attempt.snapshot]

def modifyAttempt (f : PointAttempt → PointAttempt) : Call InspectionRunController Unit :=
  modify fun controller => { controller with attempt := f controller.attempt }

def requirePhase (expected : InspectionExecutionPhase) : Call InspectionRunController Unit := do
  let controller ← get
  if controller.phase ≠ expected then
    throw (notAllowed s!"expected {expected.value}, current phase is {controller.phase.value}")

def requireObservation : Call InspectionRunController MockObservation := do
  match (← get).attempt.observation with
  | some observation => return observation
  | none => throw ⟨.invalidInspectionTransition, "Current attempt has no observation."⟩

def startNavigation : Call InspectionRunController Unit := do
  requirePhase .idle
  modifyAttempt fun attempt => { attempt with phase := .navigating }

def recordNavigationResult (succeeded : Bool) (reason : Option String) :
    Call InspectionRunController Unit := do
  requirePhase .navigating
  if succeeded then
    modifyAttempt fun attempt =>
      { attempt with navigationSucceeded := true, phase := .arrived, reason := none }
  else
    modifyAttempt fun attempt =>
      { attempt with
        navigationSucceeded := false
        phase := .navigationFailed
        reason := some (reasonOr reason "navigation_failed") }

def confirmArrival (accepted : Bool) (reason : Option String) :
    Call InspectionRunController Unit := do
  requirePhase .arrived
  if accepted then
    modifyAttempt fun attempt => { attempt with arrivalAccepted := true, phase := .stabilizing }
  else
    modifyAttempt fun attempt =>
      { attempt with
        arrivalAccepted := false
        phase := .inspectionFailed
        reason := some (reasonOr reason "arrival_not_accepted") }

def completeStabilization (succeeded : Bool) (reason : Option String) :
    Call InspectionRunController Unit := do
  requirePhase .stabilizing
  if succeeded then
    modifyAttempt fun attempt =>
      { attempt with stabilizationSucceeded := true, phase := .acquiring }
  else
    modifyAttempt fun attempt =>
      { attempt with
        stabilizationSucceeded := false
        phase := .inspectionFailed
        reason := some (reasonOr reason "stabilization_failed") }

def recordObservation (observation : MockObservation) : Call InspectionRunController Unit := do
  requirePhase .acquiring
  modifyAttempt fun attempt =>
    { attempt with observation := some observation, phase := .validating }

def recordSensorFailure (reason : String) : Call InspectionRunController Unit := do
  requirePhase .acquiring
  modifyAttempt fun attempt => { attempt with phase := .sensorFailed, reason := some reason }

def qualityOf (controller : InspectionRunController) (observation : MockObservation) (nowMs : ℤ) :
    QualityResult :=
  let point := controller.task.point
  let provenanceMatches := observation.itemId = point.item.itemId ∧
    observation.robotId = controller.robotId ∧ observation.pointId = point.pointId ∧
    observation.frameId = point.frameId
  let timestampsValid := observation.capturedAtMs ≤ observation.receivedAtMs ∧
    observation.receivedAtMs ≤ nowMs
  if ¬ provenanceMatches ∨ observation.value.isFinite = false then
    ⟨.invalid, "observation_invalid"⟩
  else if observation.complete = false then ⟨.incomplete, "observation_incomplete"⟩
  else if ¬ timestampsValid then ⟨.invalid, "observation_timestamp_invalid"⟩
  else if nowMs - observation.capturedAtMs > point.maximumObservationAgeMs then
    ⟨.stale, "observation_stale"⟩
  else ⟨.pass, "observation_valid"⟩

def validateObservation (nowMs : ℤ) : Call InspectionRunController QualityResult := do
  requirePhase .validating
  let observation ← requireObservation
  let result := (← get).qualityOf observation nowMs
  if result.passed then
    modifyAttempt fun attempt =>
      { attempt with qualityResult := some result, phase := .evaluating }
  else
    modifyAttempt fun attempt =>
      { attempt with
        qualityResult := some result
        phase := .dataInvalid
        reason := some result.reason }
  return result

def evaluate (evaluator : Option ObservationEvaluator) (evaluatedAtMs : Option ℤ) :
    Call InspectionRunController EvaluationResult := do
  requirePhase .evaluating
  let observation ← requireObservation
  let controller ← get
  let item := controller.task.point.item
  let activeEvaluator :=
    evaluator.getD (maximumThresholdRule "p0-maximum-threshold" "1" item.maximumValue)
  let result ← orRaise (activeEvaluator.evaluate observation
    (controller.attempt.attemptId ++ ":finding") (evaluatedAtMs.getD observation.receivedAtMs))
  if result.maximumValue ≠ .finite item.maximumValue then
    throw ⟨.valueError, "Evaluator maximum_value does not match the InspectionItem contract."⟩
  modifyAttempt fun attempt => { attempt with evaluationResult := some result }
  return result

def evidencePhases : List InspectionExecutionPhase :=
  [.navigationFailed, .evaluating, .dataInvalid, .sensorFailed, .inspectionFailed, .canceled]

def persistEvidence (evidenceReference : EvidenceReference) :
    Call InspectionRunController Unit := do
  let controller ← get
  if controller.phase ∉ evidencePhases then
    throw (notAllowed s!"evidence persistence from {controller.phase.value}")
  else if controller.attempt.evidenceReference.isSome then
    throw ⟨.invalidInspectionTransition,
      s!"Attempt {controller.attempt.attemptId} already has persisted evidence."⟩
  else
    modifyAttempt fun attempt => { attempt with evidenceReference := some evidenceReference }

def missingOf (attempt : PointAttempt) : List String :=
  (if attempt.navigationSucceeded then [] else ["navigation"]) ++
  (if attempt.arrivalAccepted then [] else ["arrival"]) ++
  (if attempt.stabilizationSucceeded then [] else ["stabilization"]) ++
  (if attempt.qualityResult.any QualityResult.passed then [] else ["quality"]) ++
  (if attempt.evaluationResult.isSome then [] else ["evaluation"]) ++
  (if attempt.evidenceReference.isSome then [] else ["evidence"])

def completePoint : Call InspectionRunController Unit := do
  requirePhase .evaluating
  let missing := missingOf (← get).attempt
  if missing ≠ [] then
    throw ⟨.invalidInspectionTransition,
      "Point cannot succeed; missing prerequisites: " ++ ", ".intercalate missing ++ "."⟩
  else
    modifyAttempt fun attempt => { attempt with phase := .pointSucceeded }

def completeRun : Call InspectionRunController Unit := do
  requirePhase .pointSucceeded
  modifyAttempt fun attempt => { attempt with phase := .succeeded }

def retryPoint : Call InspectionRunController Unit := do
  let controller ← get
  if controller.phase ∉ retryablePhases then
    throw (notAllowed s!"retry from {controller.phase.value}")
  else
    set { controller with
      completedAttempts := controller.completedAttempts ++ [controller.attempt.snapshot]
      attempt := newAttempt controller.runId controller.task
        (controller.attempt.attemptNumber + 1) }

def settledPhases : List InspectionExecutionPhase := [.pointSucceeded, .succeeded, .canceled]

def cancel (reason : String) : Call InspectionRunController Unit := do
  let controller ← get
  if controller.phase ∈ settledPhases then
    throw (notAllowed s!"cancel from {controller.phase.value}")
  else
    modifyAttempt fun attempt => { attempt with phase := .canceled, reason := some reason }

end InspectionRunController

inductive InspectionOp
  | startNavigation
  | recordNavigationResult (succeeded : Bool) (reason : Option String)
  | confirmArrival (accepted : Bool) (reason : Option String)
  | completeStabilization (succeeded : Bool) (reason : Option String)
  | recordObservation (observation : MockObservation)
  | recordSensorFailure (reason : String)
  | validateObservation (nowMs : ℤ)
  | evaluate (evaluator : Option ObservationEvaluator) (evaluatedAtMs : Option ℤ)
  | persistEvidence (evidenceReference : EvidenceReference)
  | completePoint
  | completeRun
  | retryPoint
  | cancel (reason : String)

namespace InspectionOp

def call : InspectionOp → Call InspectionRunController Unit
  | startNavigation => InspectionRunController.startNavigation
  | recordNavigationResult succeeded reason =>
    InspectionRunController.recordNavigationResult succeeded reason
  | confirmArrival accepted reason => InspectionRunController.confirmArrival accepted reason
  | completeStabilization succeeded reason =>
    InspectionRunController.completeStabilization succeeded reason
  | recordObservation observation => InspectionRunController.recordObservation observation
  | recordSensorFailure reason => InspectionRunController.recordSensorFailure reason
  | validateObservation nowMs => discard (InspectionRunController.validateObservation nowMs)
  | evaluate evaluator evaluatedAtMs =>
    discard (InspectionRunController.evaluate evaluator evaluatedAtMs)
  | persistEvidence evidenceReference => InspectionRunController.persistEvidence evidenceReference
  | completePoint => InspectionRunController.completePoint
  | completeRun => InspectionRunController.completeRun
  | retryPoint => InspectionRunController.retryPoint
  | cancel reason => InspectionRunController.cancel reason

def step (controller : InspectionRunController) (op : InspectionOp) : InspectionRunController :=
  final op.call controller

end InspectionOp

end Inspection
