import AmrWarehouse.Inspection.Report

/-! The data path of an inspection point from acquisition on, and the ways out of a failure. -/

namespace Inspection

open Library

structure AcquisitionRequest where
  runId : String
  attemptId : String
  robotId : String
  point : InspectionPoint

/-- What the executor turns to outside, one call each. -/
inductive Stage
  | readyGate
  | navigation
  | arrival
  | stabilization
  | acquisition
  | validation
  | evaluation
  | evidence
  deriving DecidableEq, Repr

structure Visit where
  controller : InspectionRunController
  entered : List Stage := []

def enter (stage : Stage) : Call Visit Unit :=
  modify fun visit => { visit with entered := visit.entered ++ [stage] }

def onController {α : Type} (call : Call InspectionRunController α) : Call Visit α :=
  focus Visit.controller (fun controller visit => { visit with controller := controller }) call

structure InspectionPointProcessor where
  acquire : AcquisitionRequest → ℤ → Except InspectionError MockObservation
  evaluator : ObservationEvaluator
  persistAttempt : String → PointAttemptSnapshot → Except InspectionError EvidenceReference

namespace InspectionPointProcessor

variable (processor : InspectionPointProcessor)

def persistCurrentAttempt : Call Visit Unit := do
  let controller := (← get).controller
  enter .evidence
  let evidence ← orRaise (processor.persistAttempt controller.runId controller.attempt.snapshot)
  onController (InspectionRunController.persistEvidence evidence)

def buildReport (generatedAtMs : ℤ) : Call Visit InspectionReport := do
  let controller := (← get).controller
  orRaise (buildInspectionReport controller.task controller.snapshot generatedAtMs)

def acquisitionRequest (controller : InspectionRunController) : AcquisitionRequest where
  runId := controller.runId
  attemptId := controller.attempt.attemptId
  robotId := controller.robotId
  point := controller.task.point

def inspectObservation (observation : MockObservation) (nowMs : ℤ) :
    Call Visit InspectionReport := do
  onController (InspectionRunController.recordObservation observation)
  enter .validation
  let quality ← onController (InspectionRunController.validateObservation nowMs)
  if quality.passed then
    enter .evaluation
    discard (onController
      (InspectionRunController.evaluate (some processor.evaluator) (some nowMs)))
    processor.persistCurrentAttempt
    onController InspectionRunController.completePoint
    onController InspectionRunController.completeRun
    buildReport nowMs
  else
    processor.persistCurrentAttempt
    buildReport nowMs

def processCurrentAttempt (nowMs : ℤ) : Call Visit InspectionReport := do
  let controller := (← get).controller
  if controller.phase ≠ .acquiring then
    throw ⟨.valueError, "InspectionPointProcessor requires ACQUIRING phase."⟩
  else
    enter .acquisition
    match processor.acquire (acquisitionRequest controller) nowMs with
    | .ok observation => processor.inspectObservation observation nowMs
    | .error e =>
      if e.kind = .other "InspectionAcquisitionError" then
        onController (InspectionRunController.recordSensorFailure e.message)
        processor.persistCurrentAttempt
        buildReport nowMs
      else throw e

def failurePhases : List InspectionExecutionPhase :=
  [.navigationFailed, .sensorFailed, .dataInvalid, .inspectionFailed, .canceled]

def finalizeCurrentFailure (nowMs : ℤ) : Call Visit InspectionReport := do
  let controller := (← get).controller
  if controller.phase ∉ failurePhases then
    throw ⟨.valueError, "Current inspection attempt is not in a failure phase."⟩
  else
    whenever (controller.attempt.evidenceReference = none) processor.persistCurrentAttempt
    buildReport nowMs

end InspectionPointProcessor

end Inspection
