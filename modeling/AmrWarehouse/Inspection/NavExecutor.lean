import AmrWarehouse.Inspection.Pipeline
import AmrWarehouse.Wms.Runtime

/-! One inspection, from the ready gate over the navigation to the report. -/

namespace Inspection

open Library

structure StageCheckResult where
  passed : Bool
  reason : String
  deriving DecidableEq

abbrev ArrivalVerifier :=
  InspectionTask → Wms.NavigationResult → Except InspectionError StageCheckResult

abbrev Stabilizer := InspectionTask → Except InspectionError StageCheckResult

def deterministicArrivalVerifier : ArrivalVerifier :=
  fun _ _ => .ok ⟨true, "mock_arrival_accepted"⟩

def deterministicStabilizer : Stabilizer := fun _ => .ok ⟨true, "mock_stabilization_succeeded"⟩

structure Inspector where
  processor : InspectionPointProcessor
  arrivalVerifier : Option ArrivalVerifier := none
  stabilizer : Option Stabilizer := none

structure NavOptions where
  execute : Bool := false
  readyTimeoutSec : ℚ := 60
  readyPollIntervalSec : ℚ := 2
  navigationTimeoutSec : Floating := 180
  nowMs : Option ℤ := none

inductive NavMode
  | execute
  | dryRun
  deriving DecidableEq

inductive NavOutcome
  | executeNotReadyTimeout
  | dryRunNotReady
  | dryRunReady
  | completed (completion : ReportCompletion)
  deriving DecidableEq

structure NavResult where
  mode : NavMode
  runId : String
  taskId : String
  robotId : String
  targetName : String
  resolvedPose : Wms.Pose
  goalSent : Bool := false
  exitCode : ℕ := 0
  readyWait : Option Wms.ReadyWaitResult := none
  readyGate : Option Wms.ReadyGateResult := none
  outcome : Option NavOutcome := none
  message : String := ""
  navigationResult : Option Wms.NavigationResult := none
  arrivalResult : Option StageCheckResult := none
  stabilizationResult : Option StageCheckResult := none
  inspectionReport : Option InspectionReport := none
  deriving DecidableEq

inductive NavError
  | runtime (e : Wms.WmsError)
  | inspection (e : InspectionError)
  deriving DecidableEq

structure Mission where
  course : Wms.Course := {}
  entered : List Stage := []

/-- A mission under way has a controller. -/
structure Outing where
  course : Wms.Course
  visit : Visit

def onRuntime {α : Type} (call : Wms.Call Wms.Course α) : EStateM NavError Outing α :=
  focus Outing.course (fun course outing => { outing with course := course })
    (mapError NavError.runtime call)

def onVisit {α : Type} (call : Call Visit α) : EStateM NavError Outing α :=
  focus Outing.visit (fun visit outing => { outing with visit := visit })
    (mapError NavError.inspection call)

def withController {α : Type} (controller : InspectionRunController)
    (call : EStateM NavError Outing α) : EStateM NavError Mission α := fun mission =>
  match call.run ⟨mission.course, ⟨controller, mission.entered⟩⟩ with
  | .ok a outing => .ok a ⟨outing.course, outing.visit.entered⟩
  | .error e outing => .error e ⟨outing.course, outing.visit.entered⟩

def resolvedPoseOf (task : InspectionTask) : Wms.Pose where
  frameId := task.point.frameId
  x := .finite task.point.x
  y := .finite task.point.y
  yaw := .finite task.point.yaw

def finishResult (result : NavResult) (report : InspectionReport) (message : String) :
    NavResult :=
  { result with
    inspectionReport := some report
    outcome := some (.completed report.completion)
    message := message
    exitCode := if report.completion = .succeeded then 0 else 1 }

section Run

variable (around : Wms.Surroundings) (options : NavOptions) (inspector : Inspector)
  (task : InspectionTask) (timestampMs : ℤ)

def currentReport : EStateM NavError Outing InspectionReport := do
  let controller := (← get).visit.controller
  onVisit (orRaise (buildInspectionReport task controller.snapshot timestampMs))

def finishFailed (result : NavResult) (message : String) : EStateM NavError Outing NavResult := do
  let report ← onVisit (inspector.processor.finalizeCurrentFailure timestampMs)
  return finishResult result report message

def stabilizeAndProcess (result : NavResult) : EStateM NavError Outing NavResult := do
  onVisit (enter .stabilization)
  let stabilization ←
    onVisit (orRaise (inspector.stabilizer.getD deterministicStabilizer task))
  let result := { result with stabilizationResult := some stabilization }
  onVisit (onController
    (InspectionRunController.completeStabilization stabilization.passed stabilization.reason))
  if stabilization.passed then
    let report ← onVisit (inspector.processor.processCurrentAttempt timestampMs)
    return finishResult result report "Inspection processing completed."
  else finishFailed inspector timestampMs result stabilization.reason

def verifyArrival (result : NavResult) (navigation : Wms.NavigationResult) :
    EStateM NavError Outing NavResult := do
  onVisit (enter .arrival)
  let arrival ← onVisit
    (orRaise (inspector.arrivalVerifier.getD deterministicArrivalVerifier task navigation))
  let result := { result with arrivalResult := some arrival }
  onVisit (onController (InspectionRunController.confirmArrival arrival.passed arrival.reason))
  if arrival.passed then stabilizeAndProcess inspector task timestampMs result
  else finishFailed inspector timestampMs result arrival.reason

def navigateAndInspect (result : NavResult) : EStateM NavError Outing NavResult := do
  onVisit (onController InspectionRunController.startNavigation)
  let result := { result with goalSent := true }
  onVisit (enter .navigation)
  let navigation ← onRuntime
    (Wms.navigateToPose around result.resolvedPose options.navigationTimeoutSec)
  let result := { result with navigationResult := some navigation }
  onVisit (onController
    (InspectionRunController.recordNavigationResult navigation.succeeded navigation.reason))
  if navigation.succeeded then verifyArrival inspector task timestampMs result navigation
  else finishFailed inspector timestampMs result navigation.reason

def checkGate (result : NavResult)
    (sleepFn : ℚ → Wms.Call Wms.Course Unit := Wms.sleep around) :
    EStateM NavError Outing (Wms.ReadyGateResult × NavResult) := do
  onVisit (enter .readyGate)
  if options.execute then
    let readyWait ← onRuntime (Wms.waitForExecuteReadyGate around options.readyTimeoutSec
      options.readyPollIntervalSec sleepFn)
    return (readyWait.readyGate, { result with
      readyWait := some readyWait, readyGate := some readyWait.readyGate })
  else
    let readyGate ← onRuntime (Wms.checkReadyGate around)
    return (readyGate, { result with readyGate := some readyGate })

def inspectOnce (result : NavResult) : EStateM NavError Outing NavResult := do
  let (readyGate, result) ← checkGate around options result
  if readyGate.ready = false then
    let report ← currentReport task timestampMs
    return { result with
      outcome := some (if options.execute then .executeNotReadyTimeout else .dryRunNotReady)
      message := s!"Nav2 ready gate not satisfied: {readyGate.reason}"
      exitCode := if options.execute then 1 else 0
      inspectionReport := some report }
  else if options.execute = false then
    let report ← currentReport task timestampMs
    return { result with
      outcome := some .dryRunReady
      message := "Dry-run only: ready gate satisfied; navigation and inspection not run."
      inspectionReport := some report }
  else navigateAndInspect around options inspector task timestampMs result

end Run

/-- `wallClockMs` is the time that is taken where none is given. -/
def runInspectionNavOnce (around : Wms.Surroundings) (wallClockMs : ℤ) (options : NavOptions)
    (inspector : Inspector) (task : InspectionTask) (runId robotId : String) :
    EStateM NavError Mission NavResult := do
  let controller ← mapError NavError.inspection
    (orRaise (InspectionRunController.init runId robotId task))
  withController controller
    (inspectOnce around options inspector task (options.nowMs.getD wallClockMs)
      { mode := if options.execute then .execute else .dryRun
        runId := runId
        taskId := task.taskId
        robotId := robotId
        targetName := task.point.pointId
        resolvedPose := resolvedPoseOf task })

end Inspection
