import AmrWarehouse.Fleet.Registry

/-! Assignment records and table `assignments`. A record with identifier zero has no row yet. -/

namespace Fleet

open Library

inductive AssignmentStatus
  | assigned
  | executing
  | released
  | canceled
  | completed
  | failed
  deriving DecidableEq, Repr

namespace AssignmentStatus

def value : AssignmentStatus → String
  | assigned => "assigned"
  | executing => "executing"
  | released => "released"
  | canceled => "canceled"
  | completed => "completed"
  | failed => "failed"

def all : List AssignmentStatus := [assigned, executing, released, canceled, completed, failed]

def ofValue? (text : String) : Option AssignmentStatus :=
  all.find? (fun status => status.value = text)

@[simp] lemma ofValue?_value (status : AssignmentStatus) : ofValue? status.value = some status := by
  cases status <;> decide

end AssignmentStatus

def activeAssignmentStatuses : List AssignmentStatus := [.assigned, .executing]

structure AssignmentRecord where
  id : ℕ
  taskId : ℤ
  robotId : String
  pickupStation : String
  cost : ℚ
  dispatchReason : String
  status : AssignmentStatus
  assignedAt : String
  updatedAt : String
  deriving DecidableEq

namespace AssignmentRecord

def isActive (assignment : AssignmentRecord) : Bool := assignment.status ∈ activeAssignmentStatuses

def toRow (assignment : AssignmentRecord) : AssignmentRow where
  taskId := assignment.taskId
  robotId := assignment.robotId
  pickupStation := assignment.pickupStation
  cost := assignment.cost
  dispatchReason := assignment.dispatchReason
  status := assignment.status.value
  assignedAt := assignment.assignedAt
  updatedAt := assignment.updatedAt

end AssignmentRecord

def rowToAssignment (id : ℕ) (row : AssignmentRow) : Except FleetError AssignmentRecord :=
  match AssignmentStatus.ofValue? row.status with
  | some status => .ok
      { id := id
        taskId := row.taskId
        robotId := row.robotId
        pickupStation := row.pickupStation
        cost := row.cost
        dispatchReason := row.dispatchReason
        status := status
        assignedAt := row.assignedAt
        updatedAt := row.updatedAt }
  | none => .error ⟨.valueError, s!"{quoted row.status} is not a valid AssignmentStatus"⟩

@[simp] lemma rowToAssignment_toRow (assignment : AssignmentRecord) :
    rowToAssignment assignment.id assignment.toRow = .ok assignment := by
  simp [rowToAssignment, AssignmentRecord.toRow]

/-- The read is one of its own: it may fail after the write before it was committed. -/
def fetchAssignmentById (env : Environment) (assignmentId : ℕ) :
    Call RobotRegistry AssignmentRecord := do
  let registry ← get
  if env.readFails registry.host.ticks then
    throw ⟨.databaseError, "database read failed"⟩
  else
    match registry.host.db.bind (fun db => db.assignments.find? assignmentId) with
    | some row => orRaise (rowToAssignment assignmentId row)
    | none => throw ⟨.keyError, s!"Assignment id={assignmentId} was not found."⟩

/-- The columns an `UPDATE` sets: all but the task. -/
def AssignmentRow.overwrite (values row : AssignmentRow) : AssignmentRow :=
  { values with taskId := row.taskId }

def insertRow (assignment : AssignmentRecord) (db : FleetDb) : FleetDb :=
  { db with assignments := db.assignments.insert assignment.toRow }

def updateRow (assignment : AssignmentRecord) (db : FleetDb) : FleetDb :=
  { db with assignments := db.assignments.update assignment.id assignment.toRow.overwrite }

def persistAssignment (env : Environment) (assignment : AssignmentRecord) :
    Call RobotRegistry AssignmentRecord := do
  if assignment.id = 0 then
    RobotRegistry.writeDb env (insertRow assignment)
    let lastrowid := ((← get).host.db).elim 0 (fun db => db.assignments.lastId)
    fetchAssignmentById env lastrowid
  else
    RobotRegistry.writeDb env (updateRow assignment)
    fetchAssignmentById env assignment.id

def loadAssignmentsFromDb (db : FleetDb) : Except FleetError (Dict ℤ AssignmentRecord) := do
  let rows := db.assignments.rows
  let assignments ← rows.mapM (fun row => rowToAssignment row.1 row.2)
  return Dict.ofList ((rows.map (fun row => row.2.taskId)).zip assignments)

end Fleet
