import AmrWarehouse.Library.Process
import AmrWarehouse.Wms.HttpTasks
import AmrWarehouse.Wms.Runtime

/-! The executor, as a program over the table, the API, the file and the runtime. -/

namespace Wms

open Library

inductive Request
  | nextPendingTask
  | readTaskPoints
  | updateStatus (id : ℕ) (status : TaskStatus) (statusReason : Option String)
  | waitForReadyGate (readyTimeoutSec readyPollIntervalSec : ℚ)
  | checkReadyGate
  | navigateToPose (pose : Pose) (timeoutSec : Floating)
  | fetchTasks (apiBaseUrl : String)
  | patchStatus (apiBaseUrl : String) (taskId : ℤ) (payload : Fields)

def Request.Answer : Request → Type
  | nextPendingTask => Option Task
  | readTaskPoints => TaskPoints
  | updateStatus _ _ _ => Task
  | waitForReadyGate _ _ => ReadyWaitResult
  | checkReadyGate => ReadyGateResult
  | navigateToPose _ _ => NavigationResult
  | fetchTasks _ => Json
  | patchStatus _ _ _ => Json

abbrev Program (α : Type) := Process Request Request.Answer WmsError α

open Process (perform)

def fetchNextPendingTask : Program (Option Task) := perform Request.nextPendingTask

def readTaskPoints : Program TaskPoints := perform Request.readTaskPoints

def writeStatus (id : ℕ) (status : TaskStatus) (statusReason : String) : Program Task :=
  perform (Request.updateStatus id status (some statusReason))

def awaitReadyGate (readyTimeoutSec readyPollIntervalSec : ℚ) : Program ReadyWaitResult :=
  perform (Request.waitForReadyGate readyTimeoutSec readyPollIntervalSec)

def askReadyGate : Program ReadyGateResult := perform Request.checkReadyGate

def sendGoal (pose : Pose) (timeoutSec : Floating) : Program NavigationResult :=
  perform (Request.navigateToPose pose timeoutSec)

def fetchJson (apiBaseUrl : String) : Program Json := perform (Request.fetchTasks apiBaseUrl)

def patchJson (apiBaseUrl : String) (taskId : ℤ) (payload : Fields) : Program Json :=
  perform (Request.patchStatus apiBaseUrl taskId payload)

inductive ExecutorMode
  | dryRun
  | execute
  | httpDryRun
  | httpExecute
  deriving DecidableEq

inductive ExecutorOutcome
  | noPendingTask
  | invalidTarget
  | readyGateNotReady
  | executeNotReadyTimeout
  | dryRunReady
  | succeeded
  | failed
  | apiUnreachable
  | invalidTaskPayload
  | httpTaskSimulated
  deriving DecidableEq

structure ExecutorResult where
  mode : ExecutorMode
  taskBefore : Option ReportedTask
  taskAfter : Option ReportedTask := none
  goalSent : Bool := false
  exitCode : ℕ := 0
  outcome : Option ExecutorOutcome := none
  message : String := ""
  resolvedTargetName : Option String := none
  resolvedPose : Option Pose := none
  readyWait : Option ReadyWaitResult := none
  readyGate : Option ReadyGateResult := none
  taskRunning : Option ReportedTask := none
  navigationResult : Option NavigationResult := none
  deriving DecidableEq

structure ExecutorOptions where
  execute : Bool := true
  readyTimeoutSec : ℚ := 60
  readyPollIntervalSec : ℚ := 2
  navigationTimeoutSec : Floating := 180
  deriving DecidableEq

def notSatisfied (readyGate : ReadyGateResult) : String :=
  s!"Nav2 ready gate not satisfied: {readyGate.reason}"

@[irreducible] def dispatched : String := "Ready gate satisfied; NavigateToPose goal dispatched."

def timeoutReason (readyTimeoutSec : ℚ) (readyGate : ReadyGateResult) : String :=
  "Nav2 ready gate did not become ready within " ++
    s!"{fixedPoint 1 (max readyTimeoutSec 0)}s. Last failure: {readyGate.reason}"

def finalStatus (navigation : NavigationResult) : TaskStatus :=
  if navigation.succeeded then .succeeded else .failed

def finalOutcome (navigation : NavigationResult) : ExecutorOutcome :=
  if navigation.succeeded then .succeeded else .failed

section Http

variable (apiBaseUrl : String)

def getNextPendingTaskViaHttp : Program (Option ReportedTask) := do
  let payload ← fetchJson apiBaseUrl
  Process.orRaise (nextPendingOf payload)

def updateTaskStatusViaHttp (taskId : ℤ) (status : TaskStatus) (statusReason : Option String) :
    Program ReportedTask := do
  let response ← patchJson apiBaseUrl taskId (statusPayload status statusReason)
  Process.orRaise (coerceHttpTask response (some status))

/-- The task of the response, or the result of a failed update. -/
def updateHttpTaskStatusOrFail (result : ExecutorResult) (taskId : ℤ) (status : TaskStatus)
    (statusReason : String) : Program (Except ExecutorResult ReportedTask) := do
  match ← Process.attempt
      (updateTaskStatusViaHttp apiBaseUrl taskId status (some statusReason)) with
  | .ok task => return .ok task
  | .error e =>
    match e.kind with
    | .httpTaskSourceUnavailable =>
      return .error { result with
        outcome := some .apiUnreachable
        message := s!"Failed to write {status.value} status via HTTP: {e.message}"
        exitCode := 1 }
    | .invalidHttpTaskPayload =>
      return .error { result with
        outcome := some .invalidTaskPayload
        message := s!"Invalid {status.value}-status response from HTTP API: {e.message}"
        exitCode := 1 }
    | _ => Process.raise e

def simulateHttpTask (result : ExecutorResult) (taskId : ℤ) : Program ExecutorResult := do
  match ← updateHttpTaskStatusOrFail apiBaseUrl result taskId .running
      "HTTP executor claimed task for local simulation." with
  | .error failed => return failed
  | .ok runningTask =>
    let result := { result with taskRunning := some runningTask }
    match ← updateHttpTaskStatusOrFail apiBaseUrl result taskId .succeeded
        "HTTP dry-run simulation completed; Nav2 goal not sent." with
    | .error failed => return failed
    | .ok updatedTask =>
      return { result with
        taskAfter := some updatedTask
        outcome := some .httpTaskSimulated
        message := "Fetched the earliest pending task via HTTP, wrote running -> succeeded, " ++
          "and simulated local handling only." }

def executeHttpTask (options : ExecutorOptions) (result : ExecutorResult) (taskId : ℤ)
    (pose : Pose) : Program ExecutorResult := do
  let readyWait ← awaitReadyGate options.readyTimeoutSec options.readyPollIntervalSec
  let readyGate := readyWait.readyGate
  let result := { result with readyWait := some readyWait, readyGate := some readyGate }
  if readyGate.ready = false then
    match ← updateHttpTaskStatusOrFail apiBaseUrl result taskId .pending
        (notSatisfied readyGate) with
    | .error failed => return failed
    | .ok updatedTask =>
      return { result with
        taskAfter := some updatedTask
        outcome := some .executeNotReadyTimeout
        message := timeoutReason options.readyTimeoutSec readyGate }
  else
    match ← updateHttpTaskStatusOrFail apiBaseUrl result taskId .running dispatched with
    | .error failed => return failed
    | .ok runningTask =>
      let result := { result with goalSent := true, taskRunning := some runningTask }
      let navigation ← sendGoal pose options.navigationTimeoutSec
      let result := { result with navigationResult := some navigation }
      match ← updateHttpTaskStatusOrFail apiBaseUrl result taskId (finalStatus navigation)
          navigation.reason with
      | .error failed => return failed
      | .ok updatedTask =>
        return { result with
          taskAfter := some updatedTask
          outcome := some (finalOutcome navigation)
          message := navigation.reason
          exitCode := if navigation.succeeded then result.exitCode else 1 }

def runHttpExecutorOnce (options : ExecutorOptions) : Program ExecutorResult := do
  let mode := if options.execute then .httpExecute else .httpDryRun
  match ← Process.attempt (getNextPendingTaskViaHttp apiBaseUrl) with
  | .error e =>
    let result : ExecutorResult :=
      { mode := mode, taskBefore := none, message := e.message, exitCode := 1 }
    match e.kind with
    | .httpTaskSourceUnavailable => return { result with outcome := some .apiUnreachable }
    | .invalidHttpTaskPayload => return { result with outcome := some .invalidTaskPayload }
    | _ => Process.raise e
  | .ok none =>
    return { mode := mode, taskBefore := none, outcome := some .noPendingTask
             message := "No pending tasks found via HTTP." }
  | .ok (some task) =>
    let pose : Pose := ⟨task.2.frameId, task.2.x, task.2.y, task.2.yaw⟩
    let result : ExecutorResult :=
      { mode := mode
        taskBefore := some task
        resolvedTargetName := some task.2.targetName
        resolvedPose := some pose }
    if options.execute then executeHttpTask apiBaseUrl options result task.1 pose
    else simulateHttpTask apiBaseUrl result task.1

end Http

section Database

def executeTask (options : ExecutorOptions) (result : ExecutorResult) (taskId : ℕ) (pose : Pose) :
    Program ExecutorResult := do
  let readyWait ← awaitReadyGate options.readyTimeoutSec options.readyPollIntervalSec
  let readyGate := readyWait.readyGate
  let result := { result with readyWait := some readyWait, readyGate := some readyGate }
  if readyGate.ready = false then
    let updatedTask ← writeStatus taskId .pending (notSatisfied readyGate)
    return { result with
      taskAfter := some (Task.reported updatedTask)
      outcome := some .executeNotReadyTimeout
      message := timeoutReason options.readyTimeoutSec readyGate }
  else
    let runningTask ← writeStatus taskId .running dispatched
    let result :=
      { result with goalSent := true, taskRunning := some (Task.reported runningTask) }
    let navigation ← sendGoal pose options.navigationTimeoutSec
    let updatedTask ← writeStatus taskId (finalStatus navigation) navigation.reason
    return { result with
      navigationResult := some navigation
      taskAfter := some (Task.reported updatedTask)
      outcome := some (finalOutcome navigation)
      message := navigation.reason
      exitCode := if navigation.succeeded then result.exitCode else 1 }

def inspectTask (result : ExecutorResult) (taskId : ℕ) : Program ExecutorResult := do
  let readyGate ← askReadyGate
  let result := { result with readyGate := some readyGate }
  let (outcome, reason) :=
    if readyGate.ready = false then (ExecutorOutcome.readyGateNotReady, notSatisfied readyGate)
    else (.dryRunReady, "Dry-run only: ready gate satisfied; NavigateToPose goal not sent.")
  let updatedTask ← writeStatus taskId .pending reason
  return { result with
    taskAfter := some (Task.reported updatedTask)
    outcome := some outcome
    message := reason }

def runExecutorOnce (apiBaseUrl : Option String) (options : ExecutorOptions) :
    Program ExecutorResult := do
  if (apiBaseUrl.getD "") ≠ "" then runHttpExecutorOnce (apiBaseUrl.getD "") options
  else
    let found ← fetchNextPendingTask
    let result : ExecutorResult :=
      { mode := if options.execute then .execute else .dryRun
        taskBefore := found.map Task.reported }
    match found with
    | none =>
      return { result with
        outcome := some .noPendingTask, message := "No pending tasks found." }
    | some task =>
      let file ← Process.attempt readTaskPoints
      match resolveTargetPose task.2.targetName file with
      | .error e =>
        if e.kind = .keyError ∨ e.kind = .valueError then
          let reason := s!"Target resolution failed: {e.text}"
          let updatedTask ← writeStatus task.1 .failed reason
          return { result with
            outcome := some .invalidTarget
            taskAfter := some (Task.reported updatedTask)
            message := reason
            exitCode := 1 }
        else Process.raise e
      | .ok (resolved, pose) =>
        let result :=
          { result with resolvedTargetName := some resolved, resolvedPose := some pose }
        if options.execute then executeTask options result task.1 pose
        else inspectTask result task.1

end Database

structure Site where
  database : Database
  stamped : ℕ := 0
  course : Course := {}

section Answers

variable (around : Surroundings)

def onCourse {α : Type} (call : Call Course α) : Call Site α :=
  focus Site.course (fun course site => { site with course := course }) call

def nowTimestamp : Call Site UtcTime := do
  let site ← get
  set { site with stamped := site.stamped + 1 }
  return around.utc site.stamped

def onDatabase {α : Type} (call : Call Database α) : Call Site α :=
  focus Site.database (fun database site => { site with database := database }) call

def respondTo (url : String) (endpoint : EStateM HttpException Database Json) :
    Call Database Json :=
  mapError (fun e => unavailable e url) endpoint

def answer : (request : Request) → Call Site request.Answer
  | .nextPendingTask => do return getNextPendingTask (← get).database.tasks
  | .readTaskPoints => orRaise around.file
  | .updateStatus id status statusReason => do
    let now ← nowTimestamp around
    onDatabase (updateTaskStatus id status.value statusReason now)
  | .waitForReadyGate readyTimeoutSec readyPollIntervalSec =>
    onCourse (waitForExecuteReadyGate around readyTimeoutSec readyPollIntervalSec)
  | .checkReadyGate => onCourse (checkReadyGate around)
  | .navigateToPose pose timeoutSec => onCourse (navigateToPose around pose timeoutSec)
  | .fetchTasks apiBaseUrl =>
    onDatabase (respondTo (buildTasksEndpoint apiBaseUrl) listTasksEndpoint)
  | .patchStatus apiBaseUrl taskId payload => do
    let now ← nowTimestamp around
    onDatabase (respondTo (buildTaskStatusEndpoint apiBaseUrl taskId)
      (patchTaskStatusEndpoint now taskId payload))

end Answers

end Wms
