import AmrWarehouse.Library.Floating

/-! Inspection tasks, observations, evaluations and the snapshots of a run. -/

namespace Inspection

open Library

inductive ObservationQuality
  | pass
  | stale
  | incomplete
  | invalid
  deriving DecidableEq, Repr

inductive FindingOutcome
  | normal
  | anomalous
  deriving DecidableEq, Repr

inductive FindingSeverity
  | warning
  deriving DecidableEq, Repr

structure InspectionItem where
  itemId : String
  kind : String
  maximumValue : ℚ
  itemId_filled : Filled itemId
  kind_filled : Filled kind
  deriving DecidableEq

structure InspectionPoint where
  pointId : String
  frameId : String
  x : ℚ
  y : ℚ
  yaw : ℚ
  maximumObservationAgeMs : ℤ
  item : InspectionItem
  pointId_filled : Filled pointId
  frameId_filled : Filled frameId
  age_nonneg : 0 ≤ maximumObservationAgeMs
  deriving DecidableEq

structure InspectionTask where
  taskId : String
  routeId : String
  priority : String
  point : InspectionPoint
  taskId_filled : Filled taskId
  routeId_filled : Filled routeId
  priority_filled : Filled priority
  deriving DecidableEq

structure MockObservation where
  observationId : String
  itemId : String
  robotId : String
  pointId : String
  sensorId : String
  frameId : String
  capturedAtMs : ℤ
  receivedAtMs : ℤ
  value : Floating
  calibrationVersion : String := "mock-calibration-v1"
  complete : Bool := true
  source : String := "mock"
  filled : ∀ text ∈ [observationId, itemId, robotId, pointId, sensorId, frameId,
    calibrationVersion, source], Filled text
  deriving DecidableEq

structure QualityResult where
  quality : ObservationQuality
  reason : String
  deriving DecidableEq

def QualityResult.passed (result : QualityResult) : Bool := result.quality = .pass

structure InspectionFinding where
  findingId : String
  outcome : FindingOutcome
  reason : String
  severity : Option FindingSeverity
  deriving DecidableEq

structure EvaluationResult where
  observationId : String
  measuredValue : Floating
  maximumValue : Floating
  evaluatorId : String
  evaluatorVersion : String
  evaluatedAtMs : ℤ
  finding : InspectionFinding
  deriving DecidableEq

def isHexDigit (c : Char) : Bool := c ∈ "0123456789abcdefABCDEF".toList

structure EvidenceReference where
  uri : String
  sha256 : String
  uri_filled : Filled uri
  sha256_length : sha256.length = 64
  sha256_digits : ∀ c ∈ sha256.toList, isHexDigit c = true
  deriving DecidableEq

structure PointAttemptSnapshot where
  attemptId : String
  attemptNumber : ℕ
  pointId : String
  executionPhase : String
  navigationSucceeded : Bool
  arrivalAccepted : Bool
  stabilizationSucceeded : Bool
  observation : Option MockObservation
  qualityResult : Option QualityResult
  evaluationResult : Option EvaluationResult
  evidenceReference : Option EvidenceReference
  reason : Option String
  deriving DecidableEq

/-- Attempts in the order they were made. The last one is current. -/
structure InspectionRunSnapshot where
  runId : String
  taskId : String
  robotId : String
  pointId : String
  executionPhase : String
  attempts : List PointAttemptSnapshot
  deriving DecidableEq

end Inspection
