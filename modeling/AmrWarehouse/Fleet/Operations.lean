import AmrWarehouse.Library.Runs
import AmrWarehouse.Fleet.Heartbeat

/-! The calls a client can make on a fleet, and the steps they take whether they return or raise. -/

namespace Fleet

open Library

inductive RegistryOp
  | assignTask (robotId : String) (taskId : ℤ)
  | markBusy (robotId : String)
  | releaseTask (robotId : String)
  | markOffline (robotId : String)
  | markError (robotId : String)
  | recordHeartbeat (robotId : String) (timestamp currentStation : Option String)
      (battery : Option ℚ) (recoverOffline : Bool)
  | setCurrentStation (robotId station : String)
  | recoverToIdle (robotId : String)

inductive HaulOp
  | assign (now : Datetime) (heartbeatTimeoutSec : Floating)
  | start
  | completeNavigationToPickup (simulateFailure : Bool)
  | completePickup
  | completeNavigationToDropoff (simulateFailure : Bool)
  | completeDropoff
  | fail (reason : String)
  | cancel (reason : String)
  | requeue (reason : String)

inductive FleetOp
  | registry (op : RegistryOp)
  | createHaul (taskId : ℤ) (pickupStation dropoffStation priority : String)
      (eventSink : Option (List FleetEvent))
  | haul (taskId : ℤ) (op : HaulOp)
  | assignTask (task : DispatchTask) (now : Datetime) (heartbeatTimeoutSec : Floating)
      (penalties : Dict String ℚ)
  | dispatchTasks (tasks : List DispatchTask) (now : Datetime) (heartbeatTimeoutSec : Floating)
      (penalties : Dict String ℚ)
  | setAssignmentStatus (taskId : ℤ) (status : AssignmentStatus) (timestamp : Option String)
  | sweep (now : Datetime) (timeoutSec : Floating) (haulTasks : List (ℤ × ℤ))
  | reassignRequeued (haulTasks : List (ℤ × ℤ)) (now : Datetime) (timeoutSec : Floating)

section Calls

variable (env : Environment)

def RegistryOp.call : RegistryOp → Call RobotRegistry RobotRecord
  | assignTask robotId taskId => RobotRegistry.assignTask env robotId taskId
  | markBusy robotId => RobotRegistry.markBusy env robotId
  | releaseTask robotId => RobotRegistry.releaseTask env robotId
  | markOffline robotId => RobotRegistry.markOffline env robotId
  | markError robotId => RobotRegistry.markError env robotId
  | recordHeartbeat robotId timestamp currentStation battery recoverOffline =>
    RobotRegistry.recordHeartbeat env robotId timestamp currentStation battery recoverOffline
  | setCurrentStation robotId station => RobotRegistry.setCurrentStation env robotId station
  | recoverToIdle robotId => RobotRegistry.recoverToIdle env robotId

def HaulOp.call : HaulOp → Call HaulTaskController HaulTaskSnapshot
  | assign now heartbeatTimeoutSec => HaulTaskController.assign env now heartbeatTimeoutSec
  | start => HaulTaskController.start env
  | completeNavigationToPickup simulateFailure =>
    HaulTaskController.completeNavigationToPickup env simulateFailure
  | completePickup => HaulTaskController.completePickup env
  | completeNavigationToDropoff simulateFailure =>
    HaulTaskController.completeNavigationToDropoff env simulateFailure
  | completeDropoff => HaulTaskController.completeDropoff env
  | fail reason => HaulTaskController.fail env reason
  | cancel reason => HaulTaskController.cancel env reason
  | requeue reason => HaulTaskController.requeue env reason

def createHaul (taskId : ℤ) (pickupStation dropoffStation priority : String)
    (eventSink : Option (List FleetEvent)) : Call FleetState Unit := do
  if ((← get).hauls.get? taskId).isSome then
    throw ⟨.valueError, s!"task {taskId} has a haul controller"⟩
  else
    let haul ← orRaise (Haul.create taskId pickupStation dropoffStation priority eventSink)
    onController taskId haul (HaulTaskController.emit env "TASK_CREATED"
      (some s!"pickup={pickupStation}; dropoff={dropoffStation}"))

def FleetOp.call : FleetOp → Call FleetState Unit
  | registry op => do let _ ← onRegistry (op.call env)
  | createHaul taskId pickupStation dropoffStation priority eventSink =>
    Fleet.createHaul env taskId pickupStation dropoffStation priority eventSink
  | haul taskId op => do let _ ← onHaul taskId (op.call env)
  | assignTask task now heartbeatTimeoutSec penalties => do
    let _ ← onDispatcher (FleetDispatcher.assignTask env task now heartbeatTimeoutSec penalties)
  | dispatchTasks tasks now heartbeatTimeoutSec penalties => do
    let _ ← onDispatcher
      (FleetDispatcher.dispatchTasks env tasks now heartbeatTimeoutSec penalties)
  | setAssignmentStatus taskId status timestamp => do
    let _ ← onDispatcher (FleetDispatcher.setAssignmentStatus env taskId status timestamp)
  | sweep now timeoutSec haulTasks => do
    let _ ← HeartbeatMonitor.sweep env now timeoutSec haulTasks
  | reassignRequeued haulTasks now timeoutSec => do
    let _ ← HeartbeatMonitor.reassignRequeued env haulTasks now timeoutSec

def step (fleet : FleetState) (op : FleetOp) : FleetState := final (op.call env) fleet

end Calls

end Fleet
