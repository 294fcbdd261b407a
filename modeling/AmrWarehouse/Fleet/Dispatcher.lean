import AmrWarehouse.Fleet.Assignment

/-! Candidate robots by static distance, and the dispatcher's assignment table. -/

namespace Fleet

open Library

def taskPriorities : List String := ["normal", "high"]

def priorityOrder (priority : String) : ℕ := if priority = "high" then 0 else 1

structure DispatchTask where
  taskId : ℤ
  pickupStation : String
  dropoffStation : Option String
  priority : String
  supported : priority ∈ taskPriorities

def DispatchTask.create (taskId : ℤ) (pickupStation : String) (dropoffStation : Option String)
    (priority : String) : Except FleetError DispatchTask :=
  if h : priority ∈ taskPriorities then
    .ok ⟨taskId, pickupStation, dropoffStation, priority, h⟩
  else
    .error ⟨.valueError,
      s!"Unsupported task priority {quoted priority}. Allowed values: normal, high."⟩

structure DispatchCandidate where
  robotId : String
  cost : ℚ
  dispatchReason : String
  deriving DecidableEq

structure DispatchDecision where
  taskId : ℤ
  robotId : String
  pickupStation : String
  cost : ℚ
  dispatchReason : String

structure FleetEvent where
  timestamp : String
  event : String
  taskId : Option ℤ
  robotId : Option String
  reason : Option String
  deriving DecidableEq

section Stations

/-- `float(x)`: whole numbers out of the range of the doubles have no float value. -/
def floatOf : Coordinate → Except FleetError ℚ
  | .decimal value => .ok value
  | .whole value =>
    if |(value : ℚ)| < doubleRange then .ok (roundDouble value)
    else .error ⟨.overflowError, "int too large to convert to float"⟩

def stationXy (points : Dict String StationPoint) (stationName : String) :
    Except FleetError (ℚ × ℚ) :=
  match points.get? stationName with
  | none => .error ⟨.stationNotFound,
      s!"Station {quoted stationName} was not found in task_points.yaml."⟩
  | some point =>
    match point.x, point.y with
    | some x, some y => do return (← floatOf x, ← floatOf y)
    | _, _ => .error ⟨.stationNotFound,
        s!"Station {quoted stationName} does not have numeric x/y coordinates."⟩

def staticStationDistance (env : Environment) (originStation : Option String)
    (targetStation : String) : Except FleetError ℚ := do
  let points ← env.taskPoints
  match originStation with
  | none => .error ⟨.stationNotFound, "Origin station is required for static distance."⟩
  | some origin =>
    let (originX, originY) ← stationXy points origin
    let (targetX, targetY) ← stationXy points targetStation
    return env.hypot (targetX - originX) (targetY - originY)

def computeAssignmentCost (env : Environment) (robotStation : Option String)
    (pickupStation priority : String) (workloadPenalty : ℚ) : Except FleetError (ℚ × String) := do
  let distance ← staticStationDistance env robotStation pickupStation
  let priorityPenalty : ℚ := if priority = "high" then -1 / 2 else 0
  let cost := roundDouble (roundDouble (distance + workloadPenalty) + priorityPenalty)
  let station := robotStation.getD "None"
  let reason :=
    s!"distance={fixedPoint 3 distance} from {station} to {pickupStation}; " ++
    s!"workload_penalty={fixedPoint 3 workloadPenalty}; " ++
    s!"priority_penalty={fixedPoint 3 priorityPenalty}"
  return (cost, reason)

end Stations

structure FleetDispatcher where
  registry : RobotRegistry
  assignments : Dict ℤ AssignmentRecord
  eventSink : List FleetEvent

namespace FleetDispatcher

def onRegistry {α : Type} (call : Call RobotRegistry α) : Call FleetDispatcher α :=
  focus FleetDispatcher.registry
    (fun registry dispatcher => { dispatcher with registry := registry }) call

def getAssignmentRecord (dispatcher : FleetDispatcher) (taskId : ℤ) : Option AssignmentRecord :=
  dispatcher.assignments.get? taskId

def getAssignmentForTask (dispatcher : FleetDispatcher) (taskId : ℤ) : Option AssignmentRecord :=
  (dispatcher.assignments.get? taskId).filter AssignmentRecord.isActive

section Operations

variable (env : Environment)

def init : Call FleetDispatcher Unit := do
  match (← get).registry.host.db with
  | some db => do
    let loaded ← orRaise (loadAssignmentsFromDb db)
    modify fun dispatcher => { dispatcher with assignments := loaded }
  | none => modify fun dispatcher => { dispatcher with assignments := Dict.empty }

def setAssignmentStatus (taskId : ℤ) (status : AssignmentStatus) (timestamp : Option String) :
    Call FleetDispatcher AssignmentRecord := do
  match (← get).assignments.get? taskId with
  | none => throw ⟨.keyError, s!"Assignment for task {taskId} was not found."⟩
  | some assignment =>
    let updatedAt ← onRegistry (RobotRegistry.orNow env timestamp)
    let changed := { assignment with status := status, updatedAt := updatedAt }
    let updated ←
      if (← get).registry.host.db.isSome then onRegistry (persistAssignment env changed)
      else pure changed
    modify fun dispatcher =>
      { dispatcher with assignments := dispatcher.assignments.set taskId updated }
    return updated

def emitEvent (event : String) (taskId : Option ℤ) (robotId reason timestamp : Option String) :
    Call FleetDispatcher FleetEvent := do
  let ts ← onRegistry (RobotRegistry.orNow env timestamp)
  let fleetEvent : FleetEvent := ⟨ts, event, taskId, robotId, reason⟩
  modify fun dispatcher => { dispatcher with eventSink := dispatcher.eventSink ++ [fleetEvent] }
  return fleetEvent

def candidate? (registry : RobotRegistry) (task : DispatchTask) (now : Datetime)
    (heartbeatTimeoutSec : Floating) (penalties : Dict String ℚ) (robot : RobotRecord) :
    Except FleetError (Option DispatchCandidate) := do
  let accepts ← registry.canAcceptTask env robot.robotId (some now) heartbeatTimeoutSec
  if accepts then
    match computeAssignmentCost env robot.currentStation task.pickupStation task.priority
        ((penalties.get? robot.robotId).getD 0) with
    | .ok (cost, reason) => return some ⟨robot.robotId, cost, reason⟩
    | .error e => if e.kind = .stationNotFound then return none else .error e
  else
    return none

def before (a b : DispatchCandidate) : Prop :=
  a.cost < b.cost ∨ a.cost = b.cost ∧ a.robotId ≤ b.robotId

instance : DecidableRel before := fun a b =>
  inferInstanceAs (Decidable (a.cost < b.cost ∨ a.cost = b.cost ∧ a.robotId ≤ b.robotId))

def listCandidates (registry : RobotRegistry) (task : DispatchTask) (now : Datetime)
    (heartbeatTimeoutSec : Floating) (penalties : Dict String ℚ) :
    Except FleetError (List DispatchCandidate) := do
  let found ← registry.listRobots.mapM
    (candidate? env registry task now heartbeatTimeoutSec penalties)
  return (found.filterMap id).insertionSort before

def selectRobot (registry : RobotRegistry) (task : DispatchTask) (now : Datetime)
    (heartbeatTimeoutSec : Floating) (penalties : Dict String ℚ) :
    Except FleetError (Option DispatchDecision) := do
  match ← listCandidates env registry task now heartbeatTimeoutSec penalties with
  | [] => return none
  | best :: _ =>
    return some ⟨task.taskId, best.robotId, task.pickupStation, best.cost, best.dispatchReason⟩

def assignTask (task : DispatchTask) (now : Datetime) (heartbeatTimeoutSec : Floating)
    (penalties : Dict String ℚ) : Call FleetDispatcher AssignmentRecord := do
  match (← get).getAssignmentForTask task.taskId with
  | some existing => throw ⟨.taskAlreadyAssigned,
      s!"Task {task.taskId} is already assigned to robot {existing.robotId}."⟩
  | none =>
    match ← orRaise (selectRobot env (← get).registry task now heartbeatTimeoutSec penalties) with
    | none => throw ⟨.noAvailableRobot,
        s!"No available robot can accept task {task.taskId} to {task.pickupStation}."⟩
    | some decision =>
      let _ ← onRegistry (RobotRegistry.assignTask env decision.robotId task.taskId)
      -- the robot is bound by now: a moment that UTC has no datetime for leaves it so
      let utc ← orRaise (env.astimezone now)
      let timestamp := env.utcStamp utc
      let drafted : AssignmentRecord :=
        { id := 0
          taskId := task.taskId
          robotId := decision.robotId
          pickupStation := task.pickupStation
          cost := decision.cost
          dispatchReason := decision.dispatchReason
          status := .assigned
          assignedAt := timestamp
          updatedAt := timestamp }
      let assignment ←
        if (← get).registry.host.db.isSome then onRegistry (persistAssignment env drafted)
        else pure drafted
      modify fun dispatcher =>
        { dispatcher with assignments := dispatcher.assignments.set task.taskId assignment }
      let _ ← emitEvent env "TASK_ASSIGNED" (some task.taskId) (some decision.robotId)
        (some decision.dispatchReason) (some timestamp)
      return assignment

def dispatchLoop (now : Datetime) (heartbeatTimeoutSec : Floating) (penalties : Dict String ℚ) :
    List DispatchTask → Call FleetDispatcher (List AssignmentRecord)
  | [] => pure []
  | task :: tasks => do
    if ((← get).getAssignmentForTask task.taskId).isSome then
      dispatchLoop now heartbeatTimeoutSec penalties tasks
    else
      match ← attempt (assignTask env task now heartbeatTimeoutSec penalties) with
      | .ok assignment =>
        let results ← dispatchLoop now heartbeatTimeoutSec penalties tasks
        return assignment :: results
      | .error e => if e.kind = .noAvailableRobot then pure [] else throw e

def earlier (a b : DispatchTask) : Prop :=
  priorityOrder a.priority < priorityOrder b.priority ∨
    priorityOrder a.priority = priorityOrder b.priority ∧ a.taskId ≤ b.taskId

instance : DecidableRel earlier := fun a b =>
  inferInstanceAs (Decidable (priorityOrder a.priority < priorityOrder b.priority ∨
    priorityOrder a.priority = priorityOrder b.priority ∧ a.taskId ≤ b.taskId))

def dispatchTasks (tasks : List DispatchTask) (now : Datetime) (heartbeatTimeoutSec : Floating)
    (penalties : Dict String ℚ) : Call FleetDispatcher (List AssignmentRecord) :=
  dispatchLoop env now heartbeatTimeoutSec penalties (tasks.insertionSort earlier)

end Operations

end FleetDispatcher

end Fleet
