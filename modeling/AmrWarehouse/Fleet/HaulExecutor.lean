import AmrWarehouse.Fleet.Dispatcher
import AmrWarehouse.Fleet.TaskLifecycle

/-! Simulated robot contexts, and the controller that drives one haul from pickup to dropoff. -/

namespace Fleet

open Library

structure ReadyResult where
  ready : Bool
  reason : String

structure NavigationResult where
  succeeded : Bool
  status : String
  reason : String

namespace SimulatedRobotContext

def checkReadyGate (robotId : String) : Call RobotRegistry ReadyResult := do
  let robot ← RobotRegistry.getRobot robotId
  if robot.state = .offline then
    return ⟨false, s!"{robotId} is OFFLINE."⟩
  else if robot.state = .error then
    return ⟨false, s!"{robotId} is in ERROR."⟩
  else if robot.currentTaskId = none then
    return ⟨false, s!"{robotId} has no assigned task."⟩
  else if robot.state ∉ activeTaskStates then
    return ⟨false, s!"{robotId} state is {robot.state.value}."⟩
  else
    return ⟨true, "simulated ready gate satisfied"⟩

def navigateToPose (env : Environment) (robotId : String) (simulateFailure : Bool) :
    Call RobotRegistry NavigationResult := do
  let ready ← checkReadyGate robotId
  if ready.ready then
    let robot ← RobotRegistry.getRobot robotId
    if robot.state = .assigned then
      let _ ← RobotRegistry.markBusy env robotId
    if simulateFailure then
      return ⟨false, "failed", "simulated navigation failure"⟩
    else
      return ⟨true, "succeeded", "simulated NavigateToPose SUCCEEDED"⟩
  else
    return ⟨false, "failed", ready.reason⟩

end SimulatedRobotContext

/-- What a controller keeps to itself. With no sink of its own it shares the dispatcher's. -/
structure Haul where
  snapshot : HaulTaskSnapshot
  eventSink : Option (List FleetEvent)

def Haul.create (taskId : ℤ) (pickupStation dropoffStation priority : String)
    (eventSink : Option (List FleetEvent)) : Except FleetError Haul :=
  if dropoffStation = "" then .error ⟨.valueError, "Haul tasks require a dropoff_station."⟩
  else
    let snapshot : HaulTaskSnapshot :=
      { taskId := taskId
        pickupStation := pickupStation
        dropoffStation := dropoffStation
        priority := priority
        wmsStatus := .pending
        assignmentStatus := none
        executionPhase := .idle
        robotId := none
        pickupCompleted := false
        reason := none }
    .ok ⟨snapshot, eventSink⟩

structure HaulTaskController where
  dispatcher : FleetDispatcher
  haul : Haul

namespace HaulTaskController

def onDispatcher {α : Type} (call : Call FleetDispatcher α) : Call HaulTaskController α :=
  focus HaulTaskController.dispatcher
    (fun dispatcher controller => { controller with dispatcher := dispatcher }) call

def onRegistry {α : Type} (call : Call RobotRegistry α) : Call HaulTaskController α :=
  onDispatcher (FleetDispatcher.onRegistry call)

def currentSnapshot : Call HaulTaskController HaulTaskSnapshot :=
  return (← get).haul.snapshot

def replaceSnapshot (change : HaulTaskSnapshot → HaulTaskSnapshot) : Call HaulTaskController Unit :=
  modify fun controller =>
    { controller with haul := { controller.haul with snapshot := change controller.haul.snapshot } }

section Operations

variable (env : Environment)

def emit (event : String) (reason : Option String) : Call HaulTaskController Unit := do
  let snapshot ← currentSnapshot
  let fleetEvent ← onDispatcher
    (FleetDispatcher.emitEvent env event (some snapshot.taskId) snapshot.robotId reason none)
  let record (sink : List FleetEvent) : List FleetEvent :=
    if fleetEvent ∈ sink then sink else sink ++ [fleetEvent]
  modify fun controller =>
    { controller with
      haul := { controller.haul with eventSink := controller.haul.eventSink.map record } }

def setWmsStatus (target : WmsTaskStatus) (reason : Option String) :
    Call HaulTaskController Unit := do
  orRaise (assertWmsTransitionAllowed (← currentSnapshot).wmsStatus target)
  replaceSnapshot fun snapshot => { snapshot with wmsStatus := target, reason := reason }

def setExecutionPhase (target : HaulExecutionPhase) (reason : Option String)
    (pickupCompleted : Option Bool) : Call HaulTaskController Unit := do
  orRaise (assertExecutionTransitionAllowed (← currentSnapshot).executionPhase target)
  replaceSnapshot fun snapshot =>
    { snapshot with
      executionPhase := target
      reason := reason
      pickupCompleted := pickupCompleted.getD snapshot.pickupCompleted }

def syncAssignmentStatus (status : AssignmentStatus) : Call HaulTaskController Unit := do
  let snapshot ← currentSnapshot
  if (← get).dispatcher.getAssignmentRecord snapshot.taskId = none then
    replaceSnapshot fun snapshot => { snapshot with assignmentStatus := some status }
  else
    let updated ← onDispatcher
      (FleetDispatcher.setAssignmentStatus env snapshot.taskId status none)
    replaceSnapshot fun snapshot => { snapshot with assignmentStatus := some updated.status }

def releaseRobot : Call HaulTaskController Unit := do
  match (← currentSnapshot).robotId with
  | none => pure ()
  | some robotId =>
    let robot ← onRegistry (RobotRegistry.getRobot robotId)
    if robot.state ∈ activeTaskStates then
      let _ ← onRegistry (RobotRegistry.releaseTask env robotId)

def assignRobot (previousWms : WmsTaskStatus) (now : Datetime) (heartbeatTimeoutSec : Floating) :
    Call HaulTaskController HaulTaskSnapshot := do
  let snapshot ← currentSnapshot
  let task ← orRaise (DispatchTask.create snapshot.taskId snapshot.pickupStation
    (some snapshot.dropoffStation) snapshot.priority)
  let assignment ← onDispatcher
    (FleetDispatcher.assignTask env task now heartbeatTimeoutSec Dict.empty)
  replaceSnapshot fun snapshot =>
    { snapshot with
      robotId := some assignment.robotId
      assignmentStatus := some assignment.status }
  setWmsStatus .assigned (some assignment.dispatchReason)
  whenever (previousWms = .requeued) do
    emit env "TASK_REASSIGNED" (some s!"reassigned to {assignment.robotId}")
  currentSnapshot

def assign (now : Datetime) (heartbeatTimeoutSec : Floating) :
    Call HaulTaskController HaulTaskSnapshot := do
  let previousWms := (← currentSnapshot).wmsStatus
  if previousWms ∉ [WmsTaskStatus.pending, .requeued] then
    throw ⟨.invalidLifecycleTransition, "Only PENDING or REQUEUED haul tasks can be assigned."⟩
  else
    whenever (previousWms = .requeued) do
      setExecutionPhase .idle (some "Reset execution after requeue.") (some false)
    assignRobot env previousWms now heartbeatTimeoutSec

def start : Call HaulTaskController HaulTaskSnapshot := do
  match (← currentSnapshot).robotId with
  | none => throw ⟨.invalidLifecycleTransition, "Cannot start a haul task before assignment."⟩
  | some robotId =>
    setWmsStatus .inProgress (some "Haul execution started.")
    syncAssignmentStatus env .executing
    let pickupStation := (← currentSnapshot).pickupStation
    setExecutionPhase .navigatingToPickup (some s!"Navigate to pickup {pickupStation}.") none
    emit env "NAV_STARTED" (some s!"target={pickupStation}")
    let robot ← onRegistry (RobotRegistry.getRobot robotId)
    whenever (robot.state = .assigned) do
      let _ ← onRegistry (RobotRegistry.markBusy env robotId)
      emit env "ROBOT_BUSY" (some "Haul navigation started.")
    currentSnapshot

def navigate (simulateFailure : Bool) : Call HaulTaskController NavigationResult := do
  match (← currentSnapshot).robotId with
  | none => throw ⟨.invalidLifecycleTransition, "Haul task has no assigned robot."⟩
  | some robotId => onRegistry (SimulatedRobotContext.navigateToPose env robotId simulateFailure)

def fail (reason : String) : Call HaulTaskController HaulTaskSnapshot := do
  whenever ((← currentSnapshot).executionPhase ∉ terminalExecutionPhases) do
    setExecutionPhase .failed (some reason) none
  whenever ((← currentSnapshot).wmsStatus ∉ terminalWmsStatuses) do
    if (← currentSnapshot).wmsStatus = .pending then
      throw ⟨.invalidLifecycleTransition, "A PENDING haul task cannot fail before assignment."⟩
    else
      setWmsStatus .failed (some reason)
  whenever ((← currentSnapshot).assignmentStatus ∈ activeAssignmentStatuses.map some) do
    syncAssignmentStatus env .failed
  releaseRobot env
  currentSnapshot

def arrive (simulateFailure : Bool) (station : HaulTaskSnapshot → String)
    (target : HaulExecutionPhase) (reason : String) : Call HaulTaskController HaulTaskSnapshot := do
  let result ← navigate env simulateFailure
  if result.succeeded then
    let snapshot ← currentSnapshot
    let _ ← onRegistry
      (RobotRegistry.setCurrentStation env (snapshot.robotId.getD "None") (station snapshot))
    setExecutionPhase target (some reason) none
    let stationName := station (← currentSnapshot)
    emit env "NAV_SUCCEEDED" (some s!"arrived={stationName}")
    currentSnapshot
  else
    fail env result.reason

def completeNavigationToPickup (simulateFailure : Bool) :
    Call HaulTaskController HaulTaskSnapshot := do
  if (← currentSnapshot).executionPhase ≠ .navigatingToPickup then
    throw ⟨.invalidLifecycleTransition,
      "Navigation to pickup can only complete from NAVIGATING_TO_PICKUP."⟩
  else
    arrive env simulateFailure HaulTaskSnapshot.pickupStation .pickup
      "Arrived at pickup; simulating acknowledgement."

def completePickup : Call HaulTaskController HaulTaskSnapshot := do
  if (← currentSnapshot).executionPhase ≠ .pickup then
    throw ⟨.invalidLifecycleTransition,
      "Pickup acknowledgement can only complete from PICKUP."⟩
  else
    setExecutionPhase .navigatingToDropoff (some "Pickup acknowledged; navigating to dropoff.")
      (some true)
    let dropoffStation := (← currentSnapshot).dropoffStation
    emit env "NAV_STARTED" (some s!"target={dropoffStation}")
    currentSnapshot

def completeNavigationToDropoff (simulateFailure : Bool) :
    Call HaulTaskController HaulTaskSnapshot := do
  if (← currentSnapshot).executionPhase ≠ .navigatingToDropoff then
    throw ⟨.invalidLifecycleTransition,
      "Navigation to dropoff can only complete from NAVIGATING_TO_DROPOFF."⟩
  else
    arrive env simulateFailure HaulTaskSnapshot.dropoffStation .dropoff
      "Arrived at dropoff; simulating acknowledgement."

def completeDropoff : Call HaulTaskController HaulTaskSnapshot := do
  if (← currentSnapshot).executionPhase ≠ .dropoff then
    throw ⟨.invalidLifecycleTransition,
      "Dropoff acknowledgement can only complete from DROPOFF."⟩
  else
    setExecutionPhase .succeeded (some "Dropoff acknowledged.") none
    setWmsStatus .succeeded (some "Haul task succeeded.")
    syncAssignmentStatus env .completed
    releaseRobot env
    emit env "TASK_SUCCEEDED" (some "pickup/dropoff haul completed.")
    currentSnapshot

/-- What `cancel` and `requeue` share: both are refused once the load is on the robot, and both
move the phase, the business status and the assignment, and let the robot go. -/
def withdraw (refusal : String) (phase : HaulExecutionPhase) (wmsStatus : WmsTaskStatus)
    (assignmentStatus : AssignmentStatus) (reason : String) : Call HaulTaskController Unit := do
  if (← currentSnapshot).pickupCompleted then
    throw ⟨.invalidLifecycleTransition, refusal⟩
  else
    setExecutionPhase phase (some reason) none
    setWmsStatus wmsStatus (some reason)
    whenever ((← currentSnapshot).assignmentStatus ∈ activeAssignmentStatuses.map some) do
      syncAssignmentStatus env assignmentStatus
    releaseRobot env

def cancel (reason : String) : Call HaulTaskController HaulTaskSnapshot := do
  withdraw env
    "Cancel after completed pickup is not modeled in Stage 3; treat as FAILED instead."
    .canceled .canceled .canceled reason
  currentSnapshot

def requeue (reason : String) : Call HaulTaskController HaulTaskSnapshot := do
  withdraw env "Cannot requeue after pickup is complete; load is considered irreversible."
    .requeued .requeued .released reason
  replaceSnapshot fun snapshot => { snapshot with robotId := none }
  emit env "TASK_REQUEUED" (some reason)
  currentSnapshot

end Operations

end HaulTaskController

end Fleet
