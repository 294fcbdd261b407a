import AmrWarehouse.Library.Json
import AmrWarehouse.Wms.TaskTable

/-! The HTTP API over the task table, and the task payloads the executor accepts from it. -/

namespace Wms

open Library

abbrev Fields := List (String × Json)

structure HttpException where
  statusCode : ℕ
  detail : String
  deriving DecidableEq

section Api

def taskFields (task : Task) : Fields :=
  [("id", .integer task.1),
    ("task_name", .string task.2.taskName),
    ("target_name", .string task.2.targetName),
    ("frame_id", .string task.2.frameId),
    ("x", .number task.2.x),
    ("y", .number task.2.y),
    ("yaw", .number task.2.yaw),
    ("status", .string task.2.status.value),
    ("status_reason", match task.2.statusReason with
      | some reason => .string reason
      | none => .null),
    ("created_at", .string task.2.createdAt),
    ("updated_at", .string task.2.updatedAt)]

def taskJson (task : Task) : Json := .object (taskFields task)

def TaskRow.finite (row : TaskRow) : Bool := row.x.isFinite && row.y.isFinite && row.yaw.isFinite

/-- A response with a coordinate that is not finite cannot be encoded. -/
def respond (tasks : List Task) (body : Json) : EStateM HttpException Database Json :=
  if tasks.all (fun task => task.2.finite) then pure body
  else throw ⟨500, "Internal Server Error"⟩

lemma ends_respond {tasks : List Task} {body : Json} {database : Database}
    {Q : Json → Database → Prop} {E : Database → Prop} (hq : Q body database) (he : E database) :
    Ends (respond tasks body) database Q E := by
  rw [respond]
  split_ifs
  · exact hq
  · exact he

def requestedTaskName (payload : Fields) : Except HttpException (Option String) :=
  match payload.lookup "task_name" with
  | none => .ok none
  | some .null => .ok none
  | some (.string raw) =>
    if Filled raw then .ok (some (strip raw)) else .error ⟨400, "task_name must not be blank."⟩
  | some _ => .error ⟨400, "task_name must be a string when provided."⟩

def createTaskEndpoint (file : Except WmsError TaskPoints) (now : UtcTime) (payload : Fields) :
    EStateM HttpException Database Json := do
  match payload.lookup "target_name" with
  | some (.string raw) =>
    if ¬ Filled raw then throw ⟨400, "target_name must not be blank."⟩
    let taskName ← orRaise (requestedTaskName payload)
    let task ← mapError failure (createTask (strip raw) file taskName now)
    respond [task] (taskJson task)
  | _ => throw ⟨400, "target_name must be a string."⟩
where
  failure (e : WmsError) : HttpException :=
    if e.kind = .keyError ∨ e.kind = .valueError then ⟨400, e.text⟩
    else if e.kind = .fileNotFound then ⟨500, e.text⟩
    else ⟨500, "Internal Server Error"⟩

def listTasksEndpoint : EStateM HttpException Database Json := do
  let tasks := listTasks (← get).tasks
  respond tasks
    (.object [("count", .integer tasks.length), ("tasks", .array (tasks.map taskJson))])

def requestedStatusReason (payload : Fields) : Except HttpException (Option String) :=
  match payload.lookup "status_reason" with
  | none => .ok none
  | some .null => .ok none
  | some (.string raw) =>
    if Filled raw then .ok (some (strip raw))
    else .error ⟨400, "status_reason must not be blank when provided."⟩
  | some _ => .error ⟨400, "status_reason must be a string when provided."⟩

def patchTaskStatusEndpoint (now : UtcTime) (taskId : ℤ) (payload : Fields) :
    EStateM HttpException Database Json := do
  match payload.lookup "status" with
  | some (.string raw) =>
    if ¬ Filled raw then throw ⟨400, "status must not be blank."⟩
    let statusReason ← orRaise (requestedStatusReason payload)
    let task ← mapError failure (update (strip raw) statusReason)
    respond [task] (taskJson task)
  | _ => throw ⟨400, "status must be a string."⟩
where
  /-- No row has a negative id. -/
  update (status : String) (statusReason : Option String) : Call Database Task :=
    if taskId < 0 ∧ (TaskStatus.ofValue? status).isSome then
      throw ⟨.keyError, s!"Task id={taskId} was not found."⟩
    else updateTaskStatus taskId.toNat status statusReason now
  /-- An id that SQLite cannot hold is in no table: the statement fails before any row is looked
  for. -/
  failure (e : WmsError) : HttpException :=
    if e.kind ≠ .keyError then ⟨400, e.text⟩
    else if -2 ^ 63 ≤ taskId ∧ taskId < 2 ^ 63 then ⟨404, e.text⟩
    else ⟨500, "Internal Server Error"⟩

end Api

section Payload

abbrev ReportedTask := ℤ × TaskRow

def Task.reported (task : Task) : ReportedTask := (task.1, task.2)

def invalidPayload (message : String) : WmsError := ⟨.invalidHttpTaskPayload, message⟩

def textField (fields : Fields) (name : String) : Except WmsError String :=
  match fields.lookup name with
  | some (.string raw) => if Filled raw then .ok (strip raw) else invalid
  | _ => invalid
where
  invalid :=
    .error (invalidPayload s!"HTTP task payload field \"{name}\" must be a non-blank string.")

def numberField (fields : Fields) (name : String) : Except WmsError Floating :=
  match fields.lookup name with
  | some (.boolean value) => .ok (floatOfBool value)
  | some (.integer value) => floatOfInt value
  | some (.number value) => .ok value
  | _ => .error (invalidPayload s!"HTTP task payload field \"{name}\" must be numeric.")

def idField (fields : Fields) : Except WmsError ℤ :=
  match fields.lookup "id" with
  | some (.boolean value) => .ok (if value then 1 else 0)
  | some (.integer value) => .ok value
  | _ => .error (invalidPayload "HTTP task payload field \"id\" must be an integer.")

def statusField (fields : Fields) : Except WmsError TaskStatus :=
  match fields.lookup "status" with
  | some (.string raw) =>
    match TaskStatus.ofValue? raw with
    | some status => .ok status
    | none => invalid
  | _ => invalid
where
  invalid := .error (invalidPayload
    "HTTP task payload field \"status\" must be one of the supported task states.")

def frameField (fields : Fields) : Except WmsError String :=
  match fields.lookup "frame_id" with
  | some (.string raw) => if raw = "map" then .ok raw else invalid
  | _ => invalid
where
  invalid := .error (invalidPayload "HTTP pending-task payload must use frame_id \"map\".")

def reasonField (fields : Fields) : Except WmsError (Option String) :=
  match fields.lookup "status_reason" with
  | none => .ok none
  | some .null => .ok none
  | some (.string raw) => .ok (some raw)
  | some _ => .error (invalidPayload
      "HTTP task payload field \"status_reason\" must be a string or null.")

def coerceHttpTask (task : Json) (expectedStatus : Option TaskStatus) :
    Except WmsError ReportedTask := do
  match task with
  | .object fields =>
    let id ← idField fields
    let taskName ← textField fields "task_name"
    let targetName ← textField fields "target_name"
    let status ← statusField fields
    match expectedStatus with
    | some expected =>
      if status ≠ expected then
        throw (invalidPayload s!"HTTP task payload must use status \"{expected.value}\".")
    | none => pure ()
    let frameId ← frameField fields
    let createdAt ← textField fields "created_at"
    let updatedAt ← textField fields "updated_at"
    let statusReason ← reasonField fields
    let x ← numberField fields "x"
    let y ← numberField fields "y"
    let yaw ← numberField fields "yaw"
    return (id,
      { taskName := taskName
        targetName := targetName
        frameId := frameId
        x := x
        y := y
        yaw := yaw
        status := status
        statusReason := statusReason
        createdAt := createdAt
        updatedAt := updatedAt })
  | _ => throw (invalidPayload "Task entries returned by HTTP must be JSON objects.")

/-- `(str(task['created_at']), int(task['id']))`. -/
def EarlierReported (a b : ReportedTask) : Prop :=
  a.2.createdAt < b.2.createdAt ∨ (a.2.createdAt = b.2.createdAt ∧ a.1 ≤ b.1)

instance : DecidableRel EarlierReported := fun _ _ => inferInstanceAs (Decidable (_ ∨ _))

def pendingEntries : List Json → Except WmsError (List ReportedTask)
  | [] => .ok []
  | .object fields :: tasks => do
    let status ← statusField fields
    if status = .pending then
      let task ← coerceHttpTask (.object fields) (some .pending)
      return task :: (← pendingEntries tasks)
    else pendingEntries tasks
  | _ :: _ => .error (invalidPayload "Task entries returned by HTTP must be JSON objects.")

def nextPendingOf (payload : Json) : Except WmsError (Option ReportedTask) := do
  match payload with
  | .object fields =>
    match fields.lookup "tasks" with
    | some (.array tasks) =>
      let pending ← pendingEntries tasks
      return (pending.insertionSort EarlierReported).head?
    | _ => throw (invalidPayload "HTTP /tasks payload must include a \"tasks\" list.")
  | _ => throw (invalidPayload "HTTP /tasks payload must be a JSON object.")

def stripSlashes (text : String) : String :=
  String.ofList (text.toList.reverse.dropWhile (· = '/')).reverse

def buildTasksEndpoint (apiBaseUrl : String) : String :=
  stripSlashes (strip apiBaseUrl) ++ "/tasks"

def buildTaskStatusEndpoint (apiBaseUrl : String) (taskId : ℤ) : String :=
  stripSlashes (strip apiBaseUrl) ++ s!"/tasks/{taskId}/status"

def statusPayload (status : TaskStatus) (statusReason : Option String) : Fields :=
  ("status", .string status.value) :: match statusReason with
    | some reason => [("status_reason", .string reason)]
    | none => []

def unavailable (e : HttpException) (url : String) : WmsError :=
  ⟨.httpTaskSourceUnavailable, s!"HTTP {e.statusCode} while requesting {url}."⟩

end Payload

end Wms
