import AmrWarehouse.Library.AutoTable
import AmrWarehouse.Library.Calls
import AmrWarehouse.Library.Floating
import Mathlib.Data.String.Basic

/-! The task table of the mock WMS, the task points, and the statements the table is used with. -/

namespace Wms

open Library

inductive TaskStatus
  | pending
  | running
  | succeeded
  | failed
  | canceled
  deriving DecidableEq, Repr

namespace TaskStatus

def value : TaskStatus → String
  | pending => "pending"
  | running => "running"
  | succeeded => "succeeded"
  | failed => "failed"
  | canceled => "canceled"

def all : List TaskStatus := [pending, running, succeeded, failed, canceled]

def ofValue? (text : String) : Option TaskStatus := all.find? (fun status => status.value = text)

@[simp] lemma ofValue?_value (status : TaskStatus) : ofValue? status.value = some status := by
  cases status <;> decide

end TaskStatus

inductive ErrorKind
  | keyError
  | valueError
  | overflowError
  | fileNotFound
  | httpTaskSourceUnavailable
  | invalidHttpTaskPayload
  | runtimeError
  | outOfFuel
  deriving DecidableEq, Repr

structure WmsError where
  kind : ErrorKind
  message : String
  deriving DecidableEq, Repr

/-- `str(exc)`: a `KeyError` shows its message quoted. -/
def WmsError.text (e : WmsError) : String :=
  if e.kind = .keyError then quoted e.message else e.message

abbrev Call (σ α : Type) := EStateM WmsError σ α

structure UtcTime where
  year : ℕ
  month : ℕ
  day : ℕ
  hour : ℕ
  minute : ℕ
  second : ℕ
  deriving DecidableEq, Repr

namespace UtcTime

def timestamp (t : UtcTime) : String :=
  String.ofList (decimalPlaces 4 t.year ++ '-' :: decimalPlaces 2 t.month ++
    '-' :: decimalPlaces 2 t.day ++ 'T' :: decimalPlaces 2 t.hour ++
    ':' :: decimalPlaces 2 t.minute ++ ':' :: decimalPlaces 2 t.second ++ ['Z'])

def compact (t : UtcTime) : String :=
  String.ofList (decimalPlaces 4 t.year ++ decimalPlaces 2 t.month ++ decimalPlaces 2 t.day ++
    'T' :: decimalPlaces 2 t.hour ++ decimalPlaces 2 t.minute ++ decimalPlaces 2 t.second ++ ['Z'])

example : timestamp ⟨2026, 5, 13, 9, 7, 30⟩ = "2026-05-13T09:07:30Z" := by decide +kernel

end UtcTime

/-- `float(n)`: the nearest double, and none for whole numbers that round beyond the largest. -/
def floatOfInt (n : ℤ) : Except WmsError Floating :=
  if |(n : ℚ)| < doubleRange then .ok (.finite (roundDouble n))
  else .error ⟨.overflowError, "int too large to convert to float"⟩

def floatOfBool (b : Bool) : Floating := .finite (if b then 1 else 0)

/-- A value of the task points file; `shown` is its `repr`. -/
inductive Scalar
  | text (value : String)
  | integer (value : ℤ)
  | decimal (value : Floating) (shown : String)
  | boolean (value : Bool)
  | other (shown : String)
  deriving DecidableEq

namespace Scalar

def str : Option Scalar → String
  | some (text value) => value
  | some (integer value) => toString value
  | some (decimal _ shown) => shown
  | some (boolean value) => if value then "True" else "False"
  | some (other shown) => shown
  | none => "None"

def repr : Option Scalar → String
  | some (text value) => quoted value
  | scalar => str scalar

end Scalar

abbrev TaskPoints := Dict String (Dict String Scalar)

structure Pose where
  frameId : String
  x : Floating
  y : Floating
  yaw : Floating
  deriving DecidableEq

def supportedTargetNames : List String :=
  ["candidate_dock_a", "dock_a", "station_a", "station_b", "shelf_1", "shelf_2"]

def targetNameFallback (requested : String) : Option String :=
  [("candidate_dock_a", "dock_a"), ("dock_a", "candidate_dock_a")].lookup requested

def resolveTargetName (requested : String) (points : TaskPoints) : Except WmsError String :=
  if (points.get? requested).isSome then .ok requested
  else
    match targetNameFallback requested with
    | some fallback => if (points.get? fallback).isSome then .ok fallback else notFound
    | none => notFound
where
  notFound := .error ⟨.keyError, s!"Target \"{requested}\" was not found in task_points.yaml."⟩

def coordinate (resolved field : String) (value : Option Scalar) : Except WmsError Floating :=
  if value = some (.text "TBD") then
    .error ⟨.valueError, s!"Target \"{resolved}\" is not ready for Mock WMS tasks because " ++
      s!"field \"{field}\" is still TBD."⟩
  else
    match value with
    | some (.integer value) => floatOfInt value
    | some (.decimal value _) => .ok value
    | some (.boolean value) => .ok (floatOfBool value)
    | value => .error ⟨.valueError,
        s!"Target \"{resolved}\" field \"{field}\" must be numeric, got {Scalar.repr value}."⟩

def poseOf (resolved : String) (points : TaskPoints) : Except WmsError Pose := do
  if resolved ∉ supportedTargetNames then
    throw ⟨.valueError, "V3.0 Mock WMS currently accepts validated task targets: " ++
      "candidate_dock_a / dock_a, station_a, station_b, shelf_1, shelf_2."⟩
  let point := (points.get? resolved).getD .empty
  let frameId := point.get? "frame_id"
  if frameId ≠ some (.text "map") then
    throw ⟨.valueError,
      s!"Target \"{resolved}\" must use frame_id \"map\", got \"{Scalar.str frameId}\"."⟩
  let x ← coordinate resolved "x" (point.get? "x")
  let y ← coordinate resolved "y" (point.get? "y")
  let yaw ← coordinate resolved "yaw" (point.get? "yaw")
  return ⟨"map", x, y, yaw⟩

/-- `file` is what reading the task points file gives. -/
def resolveTargetPose (requested : String) (file : Except WmsError TaskPoints) :
    Except WmsError (String × Pose) := do
  let points ← file
  let resolved ← resolveTargetName requested points
  let pose ← poseOf resolved points
  return (resolved, pose)

structure TaskRow where
  taskName : String
  targetName : String
  frameId : String
  x : Floating
  y : Floating
  yaw : Floating
  status : TaskStatus
  statusReason : Option String
  createdAt : String
  updatedAt : String
  deriving DecidableEq

def TaskRow.withStatus (status : TaskStatus) (statusReason : Option String) (updatedAt : String)
    (row : TaskRow) : TaskRow :=
  { row with status := status, statusReason := statusReason, updatedAt := updatedAt }

abbrev Task := ℕ × TaskRow

abbrev TaskTable := AutoTable TaskRow

/-- `ORDER BY created_at ASC, id ASC`. -/
def Earlier (a b : Task) : Prop :=
  a.2.createdAt < b.2.createdAt ∨ (a.2.createdAt = b.2.createdAt ∧ a.1 ≤ b.1)

instance : DecidableRel Earlier := fun _ _ => inferInstanceAs (Decidable (_ ∨ _))

def pendingTasks (table : TaskTable) : List Task :=
  (table.rows.filter fun task => task.2.status = .pending).insertionSort Earlier

def getNextPendingTask (table : TaskTable) : Option Task := (pendingTasks table).head?

def buildTaskName (targetName : String) (now : UtcTime) : String :=
  s!"mock-task-{targetName}-{now.compact}"

/-- `written` records the statuses that have been written to tasks. -/
structure Database where
  tasks : TaskTable := .empty
  written : List (ℕ × TaskStatus) := []

def newTaskRow (resolved : String) (pose : Pose) (taskName : Option String) (now : UtcTime) :
    TaskRow where
  taskName := match taskName with
    | some name => if name = "" then buildTaskName resolved now else name
    | none => buildTaskName resolved now
  targetName := resolved
  frameId := pose.frameId
  x := pose.x
  y := pose.y
  yaw := pose.yaw
  status := .pending
  statusReason := none
  createdAt := now.timestamp
  updatedAt := now.timestamp

def createTask (requested : String) (file : Except WmsError TaskPoints) (taskName : Option String)
    (now : UtcTime) : Call Database Task := do
  let (resolved, pose) ← orRaise (resolveTargetPose requested file)
  let row := newTaskRow resolved pose taskName now
  let database ← get
  set { database with tasks := database.tasks.insert row }
  return (database.tasks.lastId + 1, row)

def updateTaskStatus (id : ℕ) (status : String) (statusReason : Option String) (now : UtcTime) :
    Call Database Task := do
  match TaskStatus.ofValue? status with
  | none =>
    throw ⟨.valueError, s!"Unsupported task status {quoted status}. Allowed values: " ++
      ", ".intercalate (TaskStatus.all.map TaskStatus.value) ++ "."⟩
  | some status =>
    let database ← get
    match database.tasks.find? id with
    | none => throw ⟨.keyError, s!"Task id={id} was not found."⟩
    | some row =>
      set (Database.mk
        (database.tasks.update id (TaskRow.withStatus status statusReason now.timestamp))
        (database.written ++ [(id, status)]))
      return (id, row.withStatus status statusReason now.timestamp)

def listTasks (table : TaskTable) : List Task := table.rows

end Wms
