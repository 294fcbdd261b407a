import AmrWarehouse.Inspection.Controller

/-! The report of an inspection run, made from its snapshot alone. -/

namespace Inspection

inductive ReportCompletion
  | inProgress
  | succeeded
  | failed
  | canceled
  deriving DecidableEq, Repr

def failedPhases : List String :=
  ["navigation_failed", "sensor_failed", "data_invalid", "inspection_failed"]

structure SystemFault where
  code : String
  reason : String
  deriving DecidableEq

structure AttemptReport where
  attemptId : String
  attemptNumber : ℕ
  executionPhase : String
  observation : Option MockObservation
  quality : Option QualityResult
  evaluation : Option EvaluationResult
  finding : Option InspectionFinding
  evidence : Option EvidenceReference
  systemFault : Option SystemFault
  deriving DecidableEq

structure PointReport where
  pointId : String
  frameId : String
  x : ℚ
  y : ℚ
  yaw : ℚ
  itemId : String
  itemKind : String
  maximumValue : ℚ
  deriving DecidableEq

structure InspectionReport where
  reportId : String
  generatedAtMs : ℤ
  runId : String
  taskId : String
  robotId : String
  point : PointReport
  completion : ReportCompletion
  retryCount : ℕ
  attempts : List AttemptReport
  deriving DecidableEq

def attemptReport (attempt : PointAttemptSnapshot) : AttemptReport where
  attemptId := attempt.attemptId
  attemptNumber := attempt.attemptNumber
  executionPhase := attempt.executionPhase
  observation := attempt.observation
  quality := attempt.qualityResult
  evaluation := attempt.evaluationResult
  finding := attempt.evaluationResult.map EvaluationResult.finding
  evidence := attempt.evidenceReference
  systemFault :=
    if attempt.executionPhase ∈ failedPhases then
      some ⟨attempt.executionPhase, reasonOr attempt.reason attempt.executionPhase⟩
    else none

def completionOf (executionPhase : String) : ReportCompletion :=
  if executionPhase = "succeeded" then .succeeded
  else if executionPhase = "canceled" then .canceled
  else if executionPhase ∈ failedPhases then .failed
  else .inProgress

def buildInspectionReport (task : InspectionTask) (run : InspectionRunSnapshot)
    (generatedAtMs : ℤ) : Except InspectionError InspectionReport :=
  if run.taskId ≠ task.taskId ∨ run.pointId ≠ task.point.pointId then
    .error ⟨.valueError, "Run snapshot does not match the InspectionTask contract."⟩
  else .ok
    { reportId := run.runId ++ ":report"
      generatedAtMs := generatedAtMs
      runId := run.runId
      taskId := run.taskId
      robotId := run.robotId
      point :=
        { pointId := task.point.pointId
          frameId := task.point.frameId
          x := task.point.x
          y := task.point.y
          yaw := task.point.yaw
          itemId := task.point.item.itemId
          itemKind := task.point.item.kind
          maximumValue := task.point.item.maximumValue }
      completion := completionOf run.executionPhase
      retryCount := run.attempts.length - 1
      attempts := run.attempts.map attemptReport }

lemma value_mem_failedPhases (phase : InspectionExecutionPhase) :
    phase.value ∈ failedPhases ↔ phase ∈ retryablePhases := by
  cases phase <;> decide

lemma completionOf_value (phase : InspectionExecutionPhase) :
    completionOf phase.value = .failed ↔ phase ∈ retryablePhases := by
  cases phase <;> decide

end Inspection
