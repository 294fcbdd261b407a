import AmrWarehouse.Route.Store

/-! The execution of an inspection route: drive to a point, take an image, evaluate it. -/

namespace Route

open Library

open Wms (NavigationResult ReadyGateResult ReadyWaitResult)

/-- What the camera answers to its `n`-th check and at the `n`-th capture. -/
structure ImageCapture where
  topic : String
  checks : ℕ → Bool × String
  captures : ℕ → Except RouteError CapturedImageFrame

/-- `disk` says which file writes fail, `uri` what a path below the artifact root resolves to. -/
structure RouteSurroundings where
  nav2 : Wms.Surroundings
  imageCapture : ImageCapture
  utcNow : ℕ → String
  timeNs : ℕ → ℤ
  disk : ℕ → Option RouteError
  uri : List String → String
  codecs : Codecs

structure Preflight where
  nav2 : ReadyGateResult
  cameraReady : Bool
  cameraReason : String
  cameraTopic : String
  nav2Wait : Option ReadyWaitResult
  deriving DecidableEq

inductive RouteStatus
  | pending
  | running
  | ready
  | notReady
  | succeeded
  | failed
  deriving DecidableEq

def RouteStatus.value : RouteStatus → String
  | pending => "pending"
  | running => "running"
  | ready => "ready"
  | notReady => "not_ready"
  | succeeded => "succeeded"
  | failed => "failed"

structure RouteReport where
  schemaVersion : String := "gazebo-inspection-run-v1"
  mode : String
  runId : String
  robotId : String
  routeId : String
  startedAt : String
  finishedAt : Option String := none
  status : RouteStatus
  goalSent : Bool := false
  preflight : Preflight
  points : List PointResult := []
  summary : Summary
  evidenceBoundary : String := "Gazebo RGB simulated visual stimulus; not real hardware evidence."
  executionFault : Option ExecutionFault := none
  exitCode : Option ℕ := none
  reportRef : Option String := none
  deriving DecidableEq

inductive FileContent
  | image (payload : Bytes)
  | result (result : PointResult)
  | report (report : RouteReport)
  deriving DecidableEq

/-- The store and the files, the navigation, and how often each of the other things was used. -/
structure RouteState where
  store : Option InspectionStore
  files : List (List String × FileContent) := []
  course : Wms.Course := {}
  stamps : ℕ := 0
  ticks : ℕ := 0
  checks : ℕ := 0
  captures : ℕ := 0
  writes : ℕ := 0

structure RouteOptions where
  runId : String
  robotId : String
  execute : Bool
  readyTimeoutSec : ℚ := 60
  readyPollIntervalSec : ℚ := 2
  navigationTimeoutSec : Floating := 180
  imageTimeoutSec : Floating := 5

/-- What ended the visit of a point: a failure also ends the route. -/
abbrev Visit := Except PointResult PointResult

variable (around : RouteSurroundings)

section Surroundings

def utcNow : Call RouteState String := do
  let state ← get
  set { state with stamps := state.stamps + 1 }
  return around.utcNow state.stamps

def timeNs : Call RouteState ℤ := do
  let state ← get
  set { state with ticks := state.ticks + 1 }
  return around.timeNs state.ticks

def onCourse {α : Type} (call : Wms.Call Wms.Course α) : Call RouteState α :=
  mapError .runtime
    (focus RouteState.course (fun course state => { state with course := course }) call)

def sleepFn : Floating → Call RouteState Unit
  | .finite duration =>
    if Wms.Sleepable duration then onCourse (Wms.sleep around.nav2 duration)
    else throw (.overflowError Wms.sleepOverflow)
  | .infinite _ => throw (.overflowError Wms.sleepOverflow)
  | .nan => throw (.valueError "Invalid value NaN (not a number)")

def checkCamera : Call RouteState (Bool × String) := do
  let state ← get
  set { state with checks := state.checks + 1 }
  return around.imageCapture.checks state.checks

def captureFresh (_timeoutSec : Floating) : Call RouteState CapturedImageFrame := do
  let state ← get
  set { state with captures := state.captures + 1 }
  orRaise (around.imageCapture.captures state.captures)

def writeFile (path : List String) (content : FileContent) : Call RouteState Unit := do
  let state ← get
  set { state with writes := state.writes + 1 }
  match around.disk state.writes with
  | some e => throw e
  | none => modify fun state => { state with files := state.files ++ [(path, content)] }

def writeJson (path : List String) (content : FileContent) : Call RouteState String := do
  writeFile around path content
  return around.uri path

def writeRgbPng (path : List String) (width height : ℤ) (rgb : Bytes) :
    Call RouteState String := do
  let payload ← orRaise (pngPayload around.codecs width height rgb)
  writeFile around path (.image payload)
  return around.codecs.sha256 payload

def onStore (call : Call InspectionStore Unit) : Call RouteState Unit := do
  match (← get).store with
  | some _ =>
    focus (fun state => state.store.getD .empty)
      (fun store state => { state with store := some store }) call
  | none => throw (.attributeError "'NoneType' object has no attribute 'start_run'")

end Surroundings

def routeSummary (pointResults : List PointResult) (totalPoints : ℕ) : Summary where
  totalPoints := totalPoints
  completedPoints := pointResults.countP fun result => result.status = .succeeded
  pass := pointResults.countP fun result => result.evaluation = some .pass
  warning := pointResults.countP fun result => result.evaluation = some .warning
  executionFailures := pointResults.countP fun result => result.status ≠ .succeeded

def failedPointResult (runId : String) (point : InspectionPointSpec)
    (state : PointExecutionState) (navigationResult : NavigationResult)
    (faultCode : InspectionFaultCode) (reason : String) : PointResult where
  runId := runId
  pointId := point.pointId
  sequence := point.sequence
  status := state.status
  navigationResult := navigationResult
  executionFault := some ⟨faultCode, reason⟩
  reason := reason
  transitions := state.transitions

def advance (state : PointExecutionState) (status : InspectionPointStatus)
    (reason : Option String := none) : Call RouteState PointExecutionState := do
  let atNs ← timeNs around
  orRaise (state.transition status atNs reason)

section Visits

variable (options : RouteOptions) (point : InspectionPointSpec)

def failPoint (state : PointExecutionState) (nav : NavigationResult)
    (status : InspectionPointStatus) (faultCode : InspectionFaultCode) (reason : String)
    (artifactRef : Option String := none) : Call RouteState Visit := do
  let state ← advance around state status (some reason)
  return .error
    { failedPointResult options.runId point state nav faultCode reason with
      artifactRef := artifactRef }

def imagePath : List String := [options.runId, point.pointId, "rgb.png"]

def resultPath (pointId : String) : List String := [options.runId, pointId, "result.json"]

def observationOf (frame : CapturedImageFrame) (artifactRef : String)
    (evaluation : VisualEvaluation) : ImageObservation where
  runId := options.runId
  pointId := point.pointId
  robotId := options.robotId
  capturedAtNs := frame.capturedAtNs
  receivedAtNs := frame.receivedAtNs
  acquisitionStartedAtNs := frame.acquisitionStartedAtNs
  imageTopic := frame.topic
  imageWidth := frame.width
  imageHeight := frame.height
  encoding := frame.encoding
  artifactRef := artifactRef
  redRatio := evaluation.redRatio

def evaluateImage (state : PointExecutionState) (nav : NavigationResult)
    (frame : CapturedImageFrame) (rgb : Bytes) : Call RouteState Visit := do
  let imageSha256 ← writeRgbPng around (imagePath options point) frame.width frame.height rgb
  let artifactRef := around.uri (imagePath options point)
  let state ← advance around state .evaluating
  match evaluateRedRatio around.codecs rgb point.redRatioThreshold with
  | .error error =>
    failPoint around options point state nav .evaluationFailed .evaluationFailed error.text
      (some artifactRef)
  | .ok evaluation =>
    let state ← advance around state .succeeded
    let pointResult : PointResult :=
      { runId := options.runId
        pointId := point.pointId
        sequence := point.sequence
        status := state.status
        navigationResult := nav
        arrivalAccepted := some true
        observation := some (observationOf options point frame artifactRef evaluation)
        capturedAtNs := some frame.capturedAtNs
        freshAfterAcquisition := some true
        evaluation := some evaluation.finding
        finding := some evaluation
        severity := evaluation.severity
        reason := evaluation.reason
        artifactRef := some artifactRef
        artifactSha256 := some imageSha256
        resultRef := some (around.uri (resultPath options point.pointId))
        transitions := state.transitions }
    discard (writeJson around (resultPath options point.pointId) (.result pointResult))
    return .ok pointResult

def decodeFrame (frame : CapturedImageFrame) : Except RouteError Bytes :=
  if frame.capturedAtNs ≤ frame.acquisitionStartedAtNs then
    .error (.invalidImage "stale_image_not_newer_than_acquisition_start")
  else decodeRgbBytes frame.width frame.height frame.encoding frame.step frame.data

def examineFrame (state : PointExecutionState) (nav : NavigationResult)
    (frame : CapturedImageFrame) : Call RouteState Visit := do
  let state ← advance around state .validating
  match decodeFrame frame with
  | .error (.invalidImage reason) =>
    failPoint around options point state nav .dataInvalid .dataInvalid reason
  | .error e => throw e
  | .ok rgb => evaluateImage around options point state nav frame rgb

def acquireImage (state : PointExecutionState) (nav : NavigationResult) :
    Call RouteState Visit := do
  let state ← advance around state .arrived
  let state ← advance around state .stabilizing
  sleepFn around point.stabilizationSec
  let state ← advance around state .acquiring
  match ← attempt (captureFresh around options.imageTimeoutSec) with
  | .error (.cameraUnavailable reason) =>
    failPoint around options point state nav .acquisitionFailed .cameraUnavailable reason
  | .error (.imageTimeout reason) =>
    failPoint around options point state nav .acquisitionFailed .imageTimeout reason
  | .error e => throw e
  | .ok frame => examineFrame around options point state nav frame

def visitPoint : Call RouteState Visit := do
  let state ← advance around (.initial point.pointId) .navigating
  let nav ← onCourse (Wms.navigateToPose around.nav2 point.pose options.navigationTimeoutSec)
  if nav.succeeded then acquireImage around options point state nav
  else failPoint around options point state nav .navigationFailed .navigationFailed nav.reason

def visitPoints : List InspectionPointSpec → Call RouteState (List PointResult)
  | [] => return []
  | point :: points => do
    match ← visitPoint around options point with
    | .error result => return [result]
    | .ok result => return result :: (← visitPoints points)

end Visits

section Routes

variable (options : RouteOptions)

def persistResult (result : PointResult) : Call RouteState PointResult := do
  match result.resultRef with
  | some _ =>
    onStore (persistPointResult result)
    return result
  | none =>
    let path := resultPath options result.pointId
    let result := { result with resultRef := some (around.uri path) }
    discard (writeJson around path (.result result))
    onStore (persistPointResult result)
    return result

def finishRoute (report : RouteReport) (finishedAt : String) : Call RouteState Unit :=
  onStore (finishRun options.runId report.status.value finishedAt report.summary)

def reportPath : List String := [options.runId, "report.json"]

def refuseRoute (report : RouteReport) : Call RouteState RouteReport := do
  let gate := report.preflight.nav2
  let code := if gate.ready then InspectionFaultCode.cameraUnavailable else .robotNotReady
  let reason := if gate.ready then report.preflight.cameraReason else gate.reason
  let finishedAt ← utcNow around
  let report :=
    { report with
      status := .failed
      executionFault := some ⟨code, reason⟩
      finishedAt := some finishedAt
      exitCode := some 1 }
  let reportRef ← writeJson around (reportPath options) (.report report)
  let report := { report with reportRef := some reportRef }
  finishRoute options report finishedAt
  return report

def executeRoute (points : List InspectionPointSpec) (report : RouteReport) :
    Call RouteState RouteReport := do
  let visited ← visitPoints around options points
  let pointResults ← visited.mapM (persistResult around options)
  let runSucceeded := pointResults.length = points.length ∧
    ∀ result ∈ pointResults, result.status = .succeeded
  let finishedAt ← utcNow around
  let report :=
    { report with
      goalSent := !points.isEmpty
      points := pointResults
      summary := routeSummary pointResults points.length
      status := if runSucceeded then .succeeded else .failed
      finishedAt := some finishedAt
      exitCode := some (if runSucceeded then 0 else 1)
      reportRef := some (around.uri (reportPath options)) }
  discard (writeJson around (reportPath options) (.report report))
  finishRoute options report finishedAt
  return report

def checkNav2 (startedAt : String) :
    Call RouteState (ReadyGateResult × Option ReadyWaitResult) := do
  if options.execute then
    onStore (startRun options.runId options.robotId "default_route" startedAt)
    let readyWait ← onCourse (Wms.waitForExecuteReadyGate around.nav2 options.readyTimeoutSec
      options.readyPollIntervalSec (Wms.timeSleep around.nav2))
    return (readyWait.readyGate, some readyWait)
  else
    let readyGate ← onCourse (Wms.checkReadyGate around.nav2)
    return (readyGate, none)

def runInspectionRoute (points : List InspectionPointSpec) : Call RouteState RouteReport := do
  if points.isEmpty then
    throw (.valueError "Inspection route must contain at least one point.")
  if options.execute ∧ (← get).store.isNone then
    throw (.valueError "Execute mode requires an InspectionStore.")
  let startedAt ← utcNow around
  let (readyGate, readyWait) ← checkNav2 around options startedAt
  let (cameraReady, cameraReason) ← checkCamera around
  let report : RouteReport :=
    { mode := if options.execute then "execute" else "dry-run"
      runId := options.runId
      robotId := options.robotId
      routeId := "default_route"
      startedAt := startedAt
      status := if options.execute then .running else .pending
      preflight :=
        ⟨readyGate, cameraReady, cameraReason, around.imageCapture.topic, readyWait⟩
      summary := routeSummary [] points.length }
  if ¬ options.execute then
    let ready := readyGate.ready && cameraReady
    return { report with
      status := if ready then .ready else .notReady
      exitCode := some (if ready then 0 else 1) }
  else if readyGate.ready && cameraReady then executeRoute around options points report
  else refuseRoute around options report

end Routes

end Route
