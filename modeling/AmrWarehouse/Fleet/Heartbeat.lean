import AmrWarehouse.Fleet.HaulExecutor

/-! A fleet: one dispatcher, one registry, and the controllers of the hauls. The heartbeat monitor
works on all of them. -/

namespace Fleet

open Library

structure FleetState where
  dispatcher : FleetDispatcher
  hauls : Dict ℤ Haul

namespace FleetState

def registry (fleet : FleetState) : RobotRegistry := fleet.dispatcher.registry

def snapshot? (fleet : FleetState) (taskId : ℤ) : Option HaulTaskSnapshot :=
  (fleet.hauls.get? taskId).map Haul.snapshot

end FleetState

def onDispatcher {α : Type} (call : Call FleetDispatcher α) : Call FleetState α :=
  focus FleetState.dispatcher (fun dispatcher fleet => { fleet with dispatcher := dispatcher }) call

def onRegistry {α : Type} (call : Call RobotRegistry α) : Call FleetState α :=
  onDispatcher (FleetDispatcher.onRegistry call)

def onController {α : Type} (taskId : ℤ) (haul : Haul) (call : Call HaulTaskController α) :
    Call FleetState α :=
  focus (fun fleet => ⟨fleet.dispatcher, haul⟩)
    (fun controller fleet =>
      { fleet with
        dispatcher := controller.dispatcher
        hauls := fleet.hauls.set taskId controller.haul })
    call

def onHaul {α : Type} (taskId : ℤ) (call : Call HaulTaskController α) : Call FleetState α := do
  match (← get).hauls.get? taskId with
  | none => throw ⟨.keyError, s!"no haul controller for task {taskId}"⟩
  | some haul => onController taskId haul call

structure HeartbeatSweepItem where
  robotId : String
  timedOut : Bool
  wentOffline : Bool
  requeuedTaskId : Option ℤ
  reassignmentBlocked : Bool
  reason : String
  deriving DecidableEq

namespace HeartbeatMonitor

section Operations

variable (env : Environment)

def timeoutReason (robot : RobotRecord) (timeoutSec : Floating) : String :=
  let heartbeat := robot.lastHeartbeat.getD "None"
  s!"Heartbeat timeout after {timeoutSec.fixedPoint 1}s; last_heartbeat={heartbeat}."

def boundHaul (fleet : FleetState) (haulTasks : List (ℤ × ℤ)) (robot : RobotRecord) :
    Option (ℤ × Haul) :=
  robot.currentTaskId.bind fun taskId =>
    (haulTasks.lookup taskId).bind fun controller =>
      (fleet.hauls.get? controller).map fun haul => (controller, haul)

def takeOffline (timeoutSec : Floating) (robot : RobotRecord) (requeuedTaskId : Option ℤ)
    (reassignmentBlocked : Bool) : Call FleetState HeartbeatSweepItem := do
  let reason := timeoutReason robot timeoutSec
  let _ ← onRegistry (RobotRegistry.markOffline env robot.robotId)
  let taskName := RobotRegistry.taskText robot.currentTaskId
  let offlineReason :=
    if reassignmentBlocked then
      s!"{reason} Task {taskName} is past pickup; demo-level reassignment is blocked."
    else reason
  let eventTask := if requeuedTaskId.getD 0 = 0 then robot.currentTaskId else requeuedTaskId
  let _ ← onDispatcher (FleetDispatcher.emitEvent env "ROBOT_OFFLINE" eventTask
    (some robot.robotId) (some offlineReason) none)
  return ⟨robot.robotId, true, true, requeuedTaskId, reassignmentBlocked, offlineReason⟩

def sweepTimedOut (timeoutSec : Floating) (haulTasks : List (ℤ × ℤ)) (robot : RobotRecord) :
    Call FleetState HeartbeatSweepItem := do
  let reason := timeoutReason robot timeoutSec
  let _ ← onDispatcher (FleetDispatcher.emitEvent env "HEARTBEAT_TIMEOUT" robot.currentTaskId
    (some robot.robotId) (some reason) none)
  match boundHaul (← get) haulTasks robot with
  | none => takeOffline env timeoutSec robot none false
  | some (controller, haul) =>
    if haul.snapshot.pickupCompleted then
      takeOffline env timeoutSec robot none true
    else
      let requeued ← onController controller haul (HaulTaskController.requeue env reason)
      takeOffline env timeoutSec robot (some requeued.taskId) false

/-- The records are those listed when the sweep began. -/
def sweepLoop (now : Datetime) (timeoutSec : Floating) (haulTasks : List (ℤ × ℤ)) :
    List RobotRecord → Call FleetState (List HeartbeatSweepItem)
  | [] => pure []
  | robot :: robots => do
    if robot.state = .offline then
      sweepLoop now timeoutSec haulTasks robots
    else if ← orRaise (isHeartbeatValid env robot now timeoutSec) then
      sweepLoop now timeoutSec haulTasks robots
    else
      let item ← sweepTimedOut env timeoutSec haulTasks robot
      let results ← sweepLoop now timeoutSec haulTasks robots
      return item :: results

def sweep (now : Datetime) (timeoutSec : Floating) (haulTasks : List (ℤ × ℤ)) :
    Call FleetState (List HeartbeatSweepItem) := do
  sweepLoop env now timeoutSec haulTasks (← get).registry.listRobots

def reassignLoop (now : Datetime) (timeoutSec : Floating) :
    List ℤ → Call FleetState (List HaulTaskSnapshot)
  | [] => pure []
  | controller :: controllers => do
    if ((← get).snapshot? controller).map HaulTaskSnapshot.wmsStatus ≠ some .requeued then
      reassignLoop now timeoutSec controllers
    else
      let assigned ← onHaul controller (HaulTaskController.assign env now timeoutSec)
      let reassigned ← reassignLoop now timeoutSec controllers
      return assigned :: reassigned

def reassignRequeued (haulTasks : List (ℤ × ℤ)) (now : Datetime) (timeoutSec : Floating) :
    Call FleetState (List HaulTaskSnapshot) :=
  reassignLoop env now timeoutSec (haulTasks.map Prod.snd)

end Operations

end HeartbeatMonitor

end Fleet
