import AmrWarehouse.Fleet.Registry

/-! The resource lock manager: owners, wait queues and the log of what happened to them. -/

namespace Fleet

open Library

inductive ResourceAcquireResult
  | acquired
  | alreadyOwned
  | waiting
  deriving DecidableEq, Repr

structure ResourceRecord where
  resourceId : String
  ownerRobotId : Option String
  acquiredAt : Option String
  updatedAt : String
  deriving DecidableEq

def ResourceRecord.isFree (resource : ResourceRecord) : Bool := resource.ownerRobotId.isNone

inductive ResourceEventKind
  | resourceAcquired
  | resourceWaiting
  | resourceReleased
  | resourceTimeout
  deriving DecidableEq, Repr

structure ResourceEvent where
  timestamp : String
  event : ResourceEventKind
  resourceId : String
  robotId : Option String
  reason : Option String
  deriving DecidableEq

/-- A manager without a database. `ticks` counts what it asked of the clock. -/
structure ResourceLockManager where
  resources : Dict String ResourceRecord
  waitQueues : Dict String (List String)
  eventSink : List ResourceEvent
  ownershipTimeoutSec : Floating
  ticks : ℕ

def defaultDemoResources : List String := ["pickup_station_a", "narrow_aisle_1"]

def defaultResourceTimeoutSec : Floating := .finite 120

def resourceNotFound (resourceId : String) : FleetError :=
  ⟨.resourceNotFound, s!"Resource {quoted resourceId} was not found."⟩

def lockOrder (resourceIds : List String) : List String :=
  resourceIds.dedup.insertionSort (· ≤ ·)

namespace ResourceLockManager

section Operations

variable (env : Environment)

def init (resourceIds : List String) (ownershipTimeoutSec : Floating) (ticks : ℕ) :
    ResourceLockManager :=
  let timestamp := env.utcStamp (env.clock ticks)
  { resources := Dict.ofList (resourceIds.map fun resourceId =>
      (resourceId, ⟨resourceId, none, none, timestamp⟩))
    waitQueues := Dict.ofList (resourceIds.map fun resourceId => (resourceId, []))
    eventSink := []
    ownershipTimeoutSec := ownershipTimeoutSec.max (.finite 0)
    ticks := ticks + 1 }

def nowTimestamp : Call ResourceLockManager String := do
  let manager ← get
  set { manager with ticks := manager.ticks + 1 }
  return env.utcStamp (env.clock manager.ticks)

def orNow (timestamp : Option String) : Call ResourceLockManager String :=
  match timestamp with
  | some ts => if ts = "" then nowTimestamp env else pure ts
  | none => nowTimestamp env

def emit (event : ResourceEventKind) (resourceId : String) (robotId reason : Option String)
    (timestamp : Option String) : Call ResourceLockManager Unit := do
  let ts ← orNow env timestamp
  modify fun manager =>
    { manager with eventSink := manager.eventSink ++ [⟨ts, event, resourceId, robotId, reason⟩] }

def getResource (resourceId : String) : Call ResourceLockManager ResourceRecord := do
  match (← get).resources.get? resourceId with
  | some resource => return resource
  | none => throw (resourceNotFound resourceId)

def replaceResource (resource : ResourceRecord) : Call ResourceLockManager Unit :=
  modify fun manager =>
    { manager with resources := manager.resources.set resource.resourceId resource }

def waitQueue (resourceId : String) : Call ResourceLockManager (List String) := do
  match (← get).waitQueues.get? resourceId with
  | some queue => return queue
  | none => throw ⟨.keyError, quoted resourceId⟩

def setWaitQueue (resourceId : String) (queue : List String) : Call ResourceLockManager Unit :=
  modify fun manager => { manager with waitQueues := manager.waitQueues.set resourceId queue }

def ownershipAgeSec (resourceId : String) (now : Datetime) :
    Call ResourceLockManager (Option ℚ) := do
  let resource ← getResource resourceId
  match resource.acquiredAt with
  | none => return none
  | some acquiredAt => do
    let acquired ← orRaise (env.parseTimestamp acquiredAt)
    let ageSec ← orRaise (totalSeconds now acquired)
    return some (max ageSec 0)

def acquire (resourceId robotId : String) (timestamp : Option String) :
    Call ResourceLockManager ResourceAcquireResult := do
  let resource ← getResource resourceId
  let ts ← orNow env timestamp
  if resource.ownerRobotId = some robotId then
    return .alreadyOwned
  else if resource.isFree then do
    replaceResource ⟨resourceId, some robotId, some ts, ts⟩
    emit env .resourceAcquired resourceId (some robotId) (some "resource was free") (some ts)
    return .acquired
  else do
    let queue ← waitQueue resourceId
    whenever (robotId ∉ queue) do
      setWaitQueue resourceId (queue ++ [robotId])
      emit env .resourceWaiting resourceId (some robotId)
        (some ("owned by " ++ resource.ownerRobotId.getD "None")) (some ts)
    return .waiting

def acquireOrdered (robotId : String) (resourceIds : List String) (timestamp : Option String) :
    Call ResourceLockManager (List (String × ResourceAcquireResult)) :=
  (lockOrder resourceIds).mapM fun resourceId => do
    let result ← acquire env resourceId robotId timestamp
    return (resourceId, result)

/-- The loop over the queue: the argument is what it holds, which an answer to its owner keeps. -/
def handOver (resourceId ts : String) : List String → Call ResourceLockManager Unit
  | [] => pure ()
  | nextRobot :: rest => do
    setWaitQueue resourceId rest
    let result ← acquire env resourceId nextRobot (some ts)
    match result with
    | .acquired => pure ()
    | .waiting => do
      let queue ← waitQueue resourceId
      setWaitQueue resourceId (nextRobot :: queue)
    | .alreadyOwned => handOver resourceId ts rest

def release (resourceId robotId : String) (timestamp : Option String) :
    Call ResourceLockManager ResourceRecord := do
  let resource ← getResource resourceId
  if resource.ownerRobotId ≠ some robotId then
    throw ⟨.resourceOwnership,
      s!"Robot {quoted robotId} does not own resource {quoted resourceId}."⟩
  else do
    let ts ← orNow env timestamp
    replaceResource ⟨resourceId, none, none, ts⟩
    emit env .resourceReleased resourceId (some robotId) (some "explicit release") (some ts)
    let queue ← waitQueue resourceId
    handOver env resourceId ts queue
    getResource resourceId

def sweepResource (now : Datetime) (limit : Floating) (timestamp : String)
    (resource : ResourceRecord) : Call ResourceLockManager (List String) := do
  match resource.ownerRobotId, resource.acquiredAt with
  | some owner, some _ => do
    match ← ownershipAgeSec env resource.resourceId now with
    | none => return []
    | some ageSec =>
      if (Floating.finite ageSec).le limit then
        return []
      else do
        let _ ← release env resource.resourceId owner (some timestamp)
        emit env .resourceTimeout resource.resourceId (some owner)
          (some s!"ownership exceeded {limit.fixedPoint 1}s") (some timestamp)
        return [resource.resourceId]
  | _, _ => return []

def sweepTimeouts (now : Datetime) (timeoutSec : Option Floating) :
    Call ResourceLockManager (List String) := do
  let manager ← get
  let limit := match timeoutSec with
    | none => manager.ownershipTimeoutSec
    | some sec => sec.max (.finite 0)
  let utc ← orRaise (env.astimezone now)
  let released ← manager.resources.sortedValues.mapM
    (sweepResource env now limit (env.utcStamp utc))
  return released.flatten

end Operations

end ResourceLockManager

inductive ResourceOp
  | acquire (resourceId robotId : String) (timestamp : Option String)
  | acquireOrdered (robotId : String) (resourceIds : List String) (timestamp : Option String)
  | release (resourceId robotId : String) (timestamp : Option String)
  | sweepTimeouts (now : Datetime) (timeoutSec : Option Floating)

namespace ResourceOp

open ResourceLockManager

variable (env : Environment)

def call : ResourceOp → Call ResourceLockManager Unit
  | acquire resourceId robotId timestamp =>
    discard (ResourceLockManager.acquire env resourceId robotId timestamp)
  | acquireOrdered robotId resourceIds timestamp =>
    discard (ResourceLockManager.acquireOrdered env robotId resourceIds timestamp)
  | release resourceId robotId timestamp =>
    discard (ResourceLockManager.release env resourceId robotId timestamp)
  | sweepTimeouts now timeoutSec =>
    discard (ResourceLockManager.sweepTimeouts env now timeoutSec)

def step (manager : ResourceLockManager) (op : ResourceOp) : ResourceLockManager :=
  final (op.call env) manager

end ResourceOp

end Fleet
