import AmrWarehouse.Library.Calls
import AmrWarehouse.Fleet.Environment

/-! The robot registry: records in memory, written through to table `robots` where there is a
database. -/

namespace Fleet

open Library

structure RobotRecord where
  robotId : String
  state : RobotState
  currentTaskId : Option ℤ
  currentStation : Option String
  lastHeartbeat : Option String
  battery : ℚ
  updatedAt : String
  deriving DecidableEq

namespace RobotRecord

def hasActiveTask (robot : RobotRecord) : Bool :=
  robot.currentTaskId.isSome && decide (robot.state ∈ activeTaskStates)

def toRow (robot : RobotRecord) : RobotRow where
  robotId := robot.robotId
  state := robot.state.value
  currentTaskId := robot.currentTaskId
  currentStation := robot.currentStation
  lastHeartbeat := robot.lastHeartbeat
  battery := robot.battery
  updatedAt := robot.updatedAt

end RobotRecord

def rowToRobot (row : RobotRow) : Except FleetError RobotRecord :=
  match RobotState.ofValue? row.state with
  | some state => .ok
      { robotId := row.robotId
        state := state
        currentTaskId := row.currentTaskId
        currentStation := row.currentStation
        lastHeartbeat := row.lastHeartbeat
        battery := row.battery
        updatedAt := row.updatedAt }
  | none => .error ⟨.valueError, s!"{quoted row.state} is not a valid RobotState"⟩

@[simp] lemma rowToRobot_toRow (robot : RobotRecord) : rowToRobot robot.toRow = .ok robot := by
  simp [rowToRobot, RobotRecord.toRow]

structure RobotRegistry where
  robots : Dict String RobotRecord
  host : Host

def defaultRobotIds : List String := ["robot_01", "robot_02"]

def defaultStation : String := "start_zone"

def defaultBattery : ℚ := 100

def defaultHeartbeatTimeoutSec : Floating := .finite 30

def loadRobotsFromDb (db : FleetDb) : Except FleetError (Dict String RobotRecord) := do
  let rows := db.robots.sortedValues
  let robots ← rows.mapM rowToRobot
  return Dict.ofList ((rows.map RobotRow.robotId).zip robots)

structure Overrides where
  currentTaskId : Option (Option ℤ) := none
  currentStation : Option (Option String) := none
  lastHeartbeat : Option (Option String) := none
  battery : Option ℚ := none

section Liveness

variable (env : Environment)

def isHeartbeatValid (robot : RobotRecord) (now : Datetime) (timeoutSec : Floating) :
    Except FleetError Bool :=
  match robot.lastHeartbeat with
  | none => .ok false
  | some heartbeat => do
    let lastSeen ← env.parseTimestamp heartbeat
    let ageSec ← totalSeconds now lastSeen
    return (Floating.finite ageSec).le (timeoutSec.max (.finite 0))

end Liveness

namespace RobotRegistry

def listRobots (registry : RobotRegistry) : List RobotRecord := registry.robots.sortedValues

section Operations

variable (env : Environment)

def nowTimestamp : Call RobotRegistry String := do
  let registry ← get
  set { registry with host := { registry.host with ticks := registry.host.ticks + 1 } }
  return env.utcStamp (env.clock registry.host.ticks)

/-- `timestamp or now_timestamp()`: an empty text counts as missing. -/
def orNow (timestamp : Option String) : Call RobotRegistry String :=
  match timestamp with
  | some ts => if ts = "" then nowTimestamp env else pure ts
  | none => nowTimestamp env

def getRobot (robotId : String) : Call RobotRegistry RobotRecord := do
  match (← get).robots.get? robotId with
  | some robot => return robot
  | none => throw ⟨.robotNotFound, s!"Robot {quoted robotId} was not found."⟩

/-- One write request to the database: it is counted, and it may fail and write nothing. -/
def writeDb (change : FleetDb → FleetDb) : Call RobotRegistry Unit := do
  let registry ← get
  let tick := registry.host.ticks
  if env.writeFails tick then
    set { registry with host := { registry.host with ticks := tick + 1 } }
    throw ⟨.databaseError, "database write failed"⟩
  else
    set { registry with host := ⟨tick + 1, registry.host.db.map change⟩ }

def persistRobotToDb (robot : RobotRecord) : Call RobotRegistry Unit :=
  writeDb env (fun db => { db with robots := db.robots.set robot.robotId robot.toRow })

def upsertRobot (robot : RobotRecord) : Call RobotRegistry RobotRecord := do
  modify fun registry => { registry with robots := registry.robots.set robot.robotId robot }
  if (← get).host.db.isSome then
    persistRobotToDb env robot
  return robot

def persistAll : Call RobotRegistry Unit := do
  let registry ← get
  if registry.host.db.isSome then
    registry.listRobots.forM (persistRobotToDb env)

def buildDefaultRobot (robotId : String) (timestamp : Option String) :
    Call RobotRegistry RobotRecord := do
  let ts ← orNow env timestamp
  let robot : RobotRecord :=
    { robotId := robotId
      state := .idle
      currentTaskId := none
      currentStation := some defaultStation
      lastHeartbeat := some ts
      battery := defaultBattery
      updatedAt := ts }
  return robot

def seedDefaultRobots (timestamp : Option String) (robotIds : List String) :
    Call RobotRegistry (Dict String RobotRecord) := do
  let robots ← robotIds.mapM (fun robotId => buildDefaultRobot env robotId timestamp)
  return Dict.ofList (robotIds.zip robots)

/-- The constructor: given records, else the rows of the database, else seeds. -/
def init (robots : Option (Dict String RobotRecord)) (autoSeed : Bool) :
    Call RobotRegistry Unit := do
  let seed : Call RobotRegistry (Dict String RobotRecord) :=
    if autoSeed then seedDefaultRobots env none defaultRobotIds else pure Dict.empty
  match robots, (← get).host.db with
  | some given, _ => modify fun registry => { registry with robots := given }
  | none, some db => do
    let loaded ← orRaise (loadRobotsFromDb db)
    if loaded.keys ≠ [] then
      modify fun registry => { registry with robots := loaded }
    else do
      let seeds ← seed
      modify fun registry => { registry with robots := seeds }
      if autoSeed then
        persistAll env
  | none, none => do
    let seeds ← seed
    modify fun registry => { registry with robots := seeds }

def transition (robotId : String) (targetState : RobotState) (given : Overrides) :
    Call RobotRegistry RobotRecord := do
  let robot ← getRobot robotId
  orRaise (assertTransitionAllowed robot.state targetState)
  let updatedAt ← nowTimestamp env
  upsertRobot env
    { robotId := robot.robotId
      state := targetState
      currentTaskId := given.currentTaskId.getD robot.currentTaskId
      currentStation := given.currentStation.getD robot.currentStation
      lastHeartbeat := given.lastHeartbeat.getD robot.lastHeartbeat
      battery := given.battery.getD robot.battery
      updatedAt := updatedAt }

def recordHeartbeat (robotId : String) (timestamp currentStation : Option String)
    (battery : Option ℚ) (recoverOffline : Bool) : Call RobotRegistry RobotRecord := do
  let robot ← getRobot robotId
  let ts ← orNow env timestamp
  let updated : RobotRecord :=
    { robot with
      currentStation := if currentStation.isSome then currentStation else robot.currentStation
      lastHeartbeat := some ts
      battery := battery.getD robot.battery
      updatedAt := ts }
  if recoverOffline ∧ robot.state = .offline then
    if robot.currentTaskId.isSome then
      upsertRobot env updated
    else do
      orRaise (assertTransitionAllowed robot.state .idle)
      upsertRobot env { updated with state := .idle }
  else
    upsertRobot env updated

def canAcceptTask (registry : RobotRegistry) (robotId : String) (now : Option Datetime)
    (heartbeatTimeoutSec : Floating) : Except FleetError Bool :=
  match registry.robots.get? robotId with
  | none => .ok false
  | some robot =>
    if robot.state = .offline then .ok false
    else if robot.hasActiveTask then .ok false
    else if robot.state ∉ dispatchableStates then .ok false
    else match now with
      | none => .ok robot.lastHeartbeat.isSome
      | some moment => isHeartbeatValid env robot moment heartbeatTimeoutSec

def taskText : Option ℤ → String
  | some taskId => toString taskId
  | none => "None"

def assignTask (robotId : String) (taskId : ℤ) : Call RobotRegistry RobotRecord := do
  let robot ← getRobot robotId
  if robot.state = .offline then
    throw ⟨.robotNotAvailable,
      s!"Robot {quoted robotId} is OFFLINE and cannot accept task {taskId}."⟩
  else if robot.hasActiveTask then
    throw ⟨.robotActiveTaskConflict,
      s!"Robot {quoted robotId} already holds active task {taskText robot.currentTaskId}."⟩
  else if robot.state ∉ dispatchableStates then
    throw ⟨.robotNotAvailable,
      s!"Robot {quoted robotId} in state {robot.state.value} cannot accept task {taskId}."⟩
  else
    transition env robotId .assigned { currentTaskId := some (some taskId) }

def markBusy (robotId : String) : Call RobotRegistry RobotRecord := do
  let robot ← getRobot robotId
  if robot.currentTaskId = none then
    throw ⟨.robotNotAvailable,
      s!"Robot {quoted robotId} cannot become BUSY without an assigned task."⟩
  else
    transition env robotId .busy {}

def releaseTask (robotId : String) : Call RobotRegistry RobotRecord := do
  let robot ← getRobot robotId
  if robot.state ∉ activeTaskStates then
    throw ⟨.invalidRobotTransition,
      s!"Robot {quoted robotId} in state {robot.state.value} has no active task to release."⟩
  else
    transition env robotId .idle { currentTaskId := some none }

def markOffline (robotId : String) : Call RobotRegistry RobotRecord := do
  let robot ← getRobot robotId
  if robot.state = .offline then
    return robot
  else
    transition env robotId .offline {}

def markError (robotId : String) : Call RobotRegistry RobotRecord := do
  let _ ← getRobot robotId
  transition env robotId .error {}

def setCurrentStation (robotId station : String) : Call RobotRegistry RobotRecord := do
  let robot ← getRobot robotId
  let updatedAt ← nowTimestamp env
  upsertRobot env { robot with currentStation := some station, updatedAt := updatedAt }

def recoverToIdle (robotId : String) : Call RobotRegistry RobotRecord := do
  let robot ← getRobot robotId
  if robot.currentTaskId.isSome then
    throw ⟨.robotActiveTaskConflict,
      s!"Robot {quoted robotId} still references task {taskText robot.currentTaskId}; " ++
        "release or reassign before recovery."⟩
  else
    transition env robotId .idle { currentTaskId := some none }

end Operations

end RobotRegistry

end Fleet
