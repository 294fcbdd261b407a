import AmrWarehouse.Wms.HttpTasks
import AmrWarehouse.Wms.PendingTasks

/-! Which rows of the table the reader of the API accepts, and what it takes from them. -/

namespace Wms

open Library

section Fields

variable {fields : Fields} {name raw : String}

lemma textField_filled (h : fields.lookup name = some (.string raw)) (hraw : Filled raw) :
    textField fields name = .ok (strip raw) := by
  rw [textField, h]
  dsimp only
  rw [if_pos hraw]

lemma filled_of_textField {text : String} (h : fields.lookup name = some (.string raw))
    (hok : textField fields name = .ok text) : Filled raw := by
  by_contra hraw
  rw [textField, h] at hok
  dsimp only at hok
  rw [if_neg hraw] at hok
  simp [textField.invalid] at hok

variable {task : Task}

lemma statusField_taskFields (task : Task) : statusField (taskFields task) = .ok task.2.status := by
  have hlookup : (taskFields task).lookup "status" = some (.string task.2.status.value) := rfl
  rw [statusField, hlookup]
  dsimp only
  rw [TaskStatus.ofValue?_value]

lemma reasonField_taskFields (task : Task) :
    reasonField (taskFields task) = .ok task.2.statusReason := by
  obtain ⟨id, row⟩ := task
  obtain ⟨name, target, frame, x, y, yaw, status, reason, created, updated⟩ := row
  cases reason <;> rfl

lemma frameField_taskFields (h : task.2.frameId = "map") :
    frameField (taskFields task) = .ok task.2.frameId := by
  have hlookup : (taskFields task).lookup "frame_id" = some (.string task.2.frameId) := rfl
  rw [frameField, hlookup]
  dsimp only
  rw [if_pos h]

lemma map_of_frameField {frame : String} (h : frameField (taskFields task) = .ok frame) :
    task.2.frameId = "map" := by
  by_contra hne
  have hlookup : (taskFields task).lookup "frame_id" = some (.string task.2.frameId) := rfl
  rw [frameField, hlookup] at h
  dsimp only at h
  rw [if_neg hne] at h
  simp [frameField.invalid] at h

end Fields

structure Legible (row : TaskRow) : Prop where
  named : Filled row.taskName
  target : Filled row.targetName
  frame : row.frameId = "map"
  created : Filled row.createdAt
  updated : Filled row.updatedAt

def TaskRow.asRead (row : TaskRow) : TaskRow :=
  { row with
    taskName := strip row.taskName
    targetName := strip row.targetName
    createdAt := strip row.createdAt
    updatedAt := strip row.updatedAt }

def Task.asRead (task : Task) : ReportedTask := (task.1, task.2.asRead)

lemma Legible.withStatus {row : TaskRow} (h : Legible row) (status : TaskStatus)
    (reason : Option String) {updatedAt : String} (hupdated : Filled updatedAt) :
    Legible (row.withStatus status reason updatedAt) :=
  ⟨h.named, h.target, h.frame, h.created, hupdated⟩

section Reading

variable {task : Task} {expected : TaskStatus} {read : ReportedTask}

lemma coerce_legible (h : Legible task.2) (hstatus : task.2.status = expected) :
    coerceHttpTask (taskJson task) (some expected) = .ok task.asRead := by
  have hid : idField (taskFields task) = .ok (task.1 : ℤ) := rfl
  have hx : numberField (taskFields task) "x" = .ok task.2.x := rfl
  have hy : numberField (taskFields task) "y" = .ok task.2.y := rfl
  have hyaw : numberField (taskFields task) "yaw" = .ok task.2.yaw := rfl
  have hname : textField (taskFields task) "task_name" = .ok (strip task.2.taskName) :=
    textField_filled rfl h.named
  have htarget : textField (taskFields task) "target_name" = .ok (strip task.2.targetName) :=
    textField_filled rfl h.target
  have hcreated : textField (taskFields task) "created_at" = .ok (strip task.2.createdAt) :=
    textField_filled rfl h.created
  have hupdated : textField (taskFields task) "updated_at" = .ok (strip task.2.updatedAt) :=
    textField_filled rfl h.updated
  simp only [coerceHttpTask, taskJson, hid, hname, htarget, statusField_taskFields,
    frameField_taskFields h.frame, hcreated, hupdated, reasonField_taskFields, hx, hy, hyaw,
    hstatus, ne_eq, not_true_eq_false, if_false, bind, Except.bind, pure, Except.pure]
  rw [← hstatus]
  rfl

lemma legible_of_coerce (hstatus : task.2.status = expected)
    (h : coerceHttpTask (taskJson task) (some expected) = .ok read) : Legible task.2 := by
  have hid : idField (taskFields task) = .ok (task.1 : ℤ) := rfl
  simp only [coerceHttpTask, taskJson, hid, statusField_taskFields, hstatus, ne_eq,
    not_true_eq_false, if_false, bind, Except.bind, pure, Except.pure] at h
  cases hname : textField (taskFields task) "task_name" with
  | error e => simp [hname] at h
  | ok name =>
    cases htarget : textField (taskFields task) "target_name" with
    | error e => simp [hname, htarget] at h
    | ok target =>
      cases hframe : frameField (taskFields task) with
      | error e => simp [hname, htarget, hframe] at h
      | ok frame =>
        cases hcreated : textField (taskFields task) "created_at" with
        | error e => simp [hname, htarget, hframe, hcreated] at h
        | ok created =>
          cases hupdated : textField (taskFields task) "updated_at" with
          | error e => simp [hname, htarget, hframe, hcreated, hupdated] at h
          | ok updated =>
            exact ⟨filled_of_textField rfl hname, filled_of_textField rfl htarget,
              map_of_frameField hframe, filled_of_textField rfl hcreated,
              filled_of_textField rfl hupdated⟩

def LegibleQueue (tasks : List Task) : Prop :=
  ∀ task ∈ tasks, task.2.status = .pending → Legible task.2

lemma pendingEntries_of_legible {tasks : List Task} (h : LegibleQueue tasks) :
    pendingEntries (tasks.map taskJson) =
      .ok ((tasks.filter fun task => task.2.status = .pending).map Task.asRead) := by
  induction tasks with
  | nil => rfl
  | cons task tasks ih =>
    have hrest := ih fun other hother => h other (List.mem_cons_of_mem task hother)
    rw [List.map_cons, taskJson, pendingEntries, statusField_taskFields]
    simp only [bind, Except.bind]
    by_cases hstatus : task.2.status = .pending
    · have hcoerced := coerce_legible (h task List.mem_cons_self hstatus) hstatus
      rw [taskJson] at hcoerced
      simp [hstatus, hcoerced, hrest, pure, Except.pure]
    · simp [hstatus, hrest]

lemma legible_of_pendingEntries {tasks : List Task} {entries : List ReportedTask}
    (h : pendingEntries (tasks.map taskJson) = .ok entries) : LegibleQueue tasks := by
  induction tasks generalizing entries with
  | nil => exact fun task htask => by simp at htask
  | cons task tasks ih =>
    rw [List.map_cons, taskJson, pendingEntries, statusField_taskFields] at h
    simp only [bind, Except.bind] at h
    intro other hother hpending
    by_cases hstatus : task.2.status = .pending
    · rw [if_pos hstatus] at h
      cases hcoerced : coerceHttpTask (.object (taskFields task)) (some .pending) with
      | error e => simp [hcoerced] at h
      | ok read =>
        cases hentries : pendingEntries (tasks.map taskJson) with
        | error e => simp [hcoerced, hentries] at h
        | ok rest =>
          rcases List.mem_cons.mp hother with rfl | hmem
          · exact legible_of_coerce hstatus hcoerced
          · exact ih hentries other hmem hpending
    · rw [if_neg hstatus] at h
      rcases List.mem_cons.mp hother with rfl | hmem
      · exact absurd hpending hstatus
      · exact ih h other hmem hpending

variable {table : TaskTable}

def tasksPayload (table : TaskTable) : Json :=
  .object [("count", .integer (listTasks table).length),
    ("tasks", .array ((listTasks table).map taskJson))]

lemma nextPendingOf_payload (table : TaskTable) :
    nextPendingOf (tasksPayload table) = (do
      let pending ← pendingEntries (table.rows.map taskJson)
      return (pending.insertionSort EarlierReported).head?) := rfl

lemma exists_of_nextPendingOf (h : nextPendingOf (tasksPayload table) = .ok (some read)) :
    ∃ task ∈ table.rows, task.2.status = .pending ∧ Legible task.2 ∧ read = Task.asRead task := by
  rw [nextPendingOf_payload] at h
  cases hentries : pendingEntries (table.rows.map taskJson) with
  | error e => simp [hentries, bind, Except.bind] at h
  | ok entries =>
    have hlegible := legible_of_pendingEntries hentries
    obtain rfl := Except.ok.inj (hentries.symm.trans (pendingEntries_of_legible hlegible))
    simp only [hentries, bind, Except.bind, pure, Except.pure, Except.ok.injEq] at h
    have hmem := List.mem_of_head? h
    rw [List.mem_insertionSort, List.mem_map] at hmem
    obtain ⟨task, htask, rfl⟩ := hmem
    obtain ⟨hrow, hpending⟩ := List.mem_filter.mp htask
    have hstatus := of_decide_eq_true hpending
    exact ⟨task, hrow, hstatus, hlegible task hrow hstatus, rfl⟩

lemma nextPendingOf_error_iff :
    (∃ e, nextPendingOf (tasksPayload table) = .error e) ↔ ¬ LegibleQueue table.rows := by
  rw [nextPendingOf_payload]
  constructor
  · rintro ⟨e, h⟩ hlegible
    rw [pendingEntries_of_legible hlegible] at h
    simp [bind, Except.bind, pure, Except.pure] at h
  · intro hlegible
    cases hentries : pendingEntries (table.rows.map taskJson) with
    | error e => exact ⟨e, rfl⟩
    | ok entries => exact absurd (legible_of_pendingEntries hentries) hlegible

lemma nextPendingOf_of_legible (h : LegibleQueue table.rows)
    (htrimmed : ∀ task ∈ table.rows, Trimmed task.2.createdAt) :
    nextPendingOf (tasksPayload table) = .ok ((getNextPendingTask table).map Task.asRead) := by
  have hsorted : ((table.rows.filter fun task => task.2.status = .pending).map
      Task.asRead).insertionSort EarlierReported = (pendingTasks table).map Task.asRead := by
    rw [pendingTasks]
    symm
    apply List.map_insertionSort
    intro a ha b hb
    have ha' : strip a.2.createdAt = a.2.createdAt := htrimmed a (List.mem_filter.mp ha).1
    have hb' : strip b.2.createdAt = b.2.createdAt := htrimmed b (List.mem_filter.mp hb).1
    simp [Earlier, EarlierReported, Task.asRead, TaskRow.asRead, ha', hb']
  rw [nextPendingOf_payload, pendingEntries_of_legible h]
  simp only [bind, Except.bind, pure, Except.pure, hsorted]
  rw [getNextPendingTask, List.head?_map]

end Reading

end Wms
