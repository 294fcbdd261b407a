import AmrWarehouse.Wms.HttpCalls

/-! Tasks that were put into the store directly, as the reader of the API finds them. -/

namespace Wms

open Library

/-- Each task may be created with a task points file of its own. -/
inductive StoreOp
  | create (requested : String) (file : Except WmsError TaskPoints) (taskName : Option String)
      (now : UtcTime)
  | update (id : ℕ) (status : String) (statusReason : Option String) (now : UtcTime)

namespace StoreOp

def step (database : Database) : StoreOp → Database
  | create requested file taskName now => final (createTask requested file taskName now) database
  | update id status statusReason now =>
    final (updateTaskStatus id status statusReason now) database

def Finite : StoreOp → Prop
  | create requested file _ _ => ∀ resolved pose,
    resolveTargetPose requested file = .ok (resolved, pose) →
      pose.x.isFinite = true ∧ pose.y.isFinite = true ∧ pose.yaw.isFinite = true
  | update _ _ _ _ => True

end StoreOp

/-- A row of the store: its name may be any text. -/
structure Stored (row : TaskRow) : Prop where
  target : Plain row.targetName
  frame : row.frameId = "map"
  created : Plain row.createdAt
  updated : Plain row.updatedAt
  finite : row.finite = true

section Rows

variable {row : TaskRow} {database : Database}

lemma Stored.withStatus (h : Stored row) (status : TaskStatus) (reason : Option String)
    (now : UtcTime) : Stored (row.withStatus status reason now.timestamp) :=
  ⟨h.target, h.frame, h.created, timestamp_plain now, h.finite⟩

lemma Stored.legible_iff (h : Stored row) : Legible row ↔ Filled row.taskName :=
  ⟨Legible.named, fun hnamed => ⟨hnamed, h.target.1, h.frame, h.created.1, h.updated.1⟩⟩

lemma stored_newTaskRow {requested resolved : String} {file : Except WmsError TaskPoints}
    {pose : Pose} {taskName : Option String} {now : UtcTime}
    (hfinite : (StoreOp.create requested file taskName now).Finite)
    (hpose : resolveTargetPose requested file = .ok (resolved, pose)) :
    Stored (newTaskRow resolved pose taskName now) where
  target := by
    obtain ⟨_, _, _, hpoint⟩ := resolveTargetPose_ok.mp hpose
    exact supported_plain (poseOf_ok hpoint).1
  frame := by
    obtain ⟨_, _, _, hpoint⟩ := resolveTargetPose_ok.mp hpose
    exact (poseOf_ok hpoint).2
  created := timestamp_plain now
  updated := timestamp_plain now
  finite := by
    obtain ⟨hx, hy, hyaw⟩ := hfinite resolved pose hpose
    simp [TaskRow.finite, newTaskRow, hx, hy, hyaw]

def StoredRows (table : TaskTable) : Prop := ∀ task ∈ table.rows, Stored task.2

lemma StoredRows.insert {table : TaskTable} (h : StoredRows table) (hrow : Stored row) :
    StoredRows (table.insert row) := by
  intro task htask
  rcases List.mem_append.mp htask with hold | hnew
  · exact h task hold
  · rw [List.mem_singleton.mp hnew]
    exact hrow

lemma StoredRows.update {table : TaskTable} (h : StoredRows table) (id : ℕ) (status : TaskStatus)
    (reason : Option String) (now : UtcTime) :
    StoredRows (table.update id (TaskRow.withStatus status reason now.timestamp)) := by
  intro task htask
  obtain ⟨old, hold, rfl⟩ := List.mem_map.mp htask
  rw [AutoTable.updateRow]
  split_ifs
  · exact (h old hold).withStatus status reason now
  · exact h old hold

lemma storedRows_step {op : StoreOp} (h : StoredRows database.tasks) (hfinite : op.Finite) :
    StoredRows (op.step database).tasks := by
  cases op with
  | create requested file taskName now =>
    have hends : Ends (createTask requested file taskName now) database
        (fun _ database' => StoredRows database'.tasks)
        (fun database' => StoredRows database'.tasks) := by
      rw [createTask, ends_bind]
      cases hpose : resolveTargetPose requested file with
      | error e => exact h
      | ok found => exact h.insert (stored_newTaskRow hfinite hpose)
    exact hends.final
  | update id status reason now =>
    have hends : Ends (updateTaskStatus id status reason now) database
        (fun _ database' => StoredRows database'.tasks)
        (fun database' => StoredRows database'.tasks) := by
      rw [updateTaskStatus]
      cases TaskStatus.ofValue? status with
      | none => exact h
      | some status =>
        dsimp only
        rw [ends_bind, ends_get]
        cases database.tasks.find? id with
        | none => exact h
        | some row => exact h.update id status reason now
    exact hends.final

lemma storedRows_run {ops : List StoreOp} (hfinite : ∀ op ∈ ops, op.Finite) :
    StoredRows (runAll StoreOp.step {} ops).tasks := by
  refine runAll_invariant (fun past (after : Database) => (∀ op ∈ past, op.Finite) →
    StoredRows after.tasks) ?_ ?_ ops hfinite
  · intro _ task htask
    simp [AutoTable.empty] at htask
  · intro past op ih hpast
    refine storedRows_step (ih fun other hother => hpast other ?_) (hpast op ?_)
    · exact List.mem_append_left _ hother
    · exact List.mem_append_right _ (List.mem_singleton_self op)

end Rows

/-- Reading the queue over the API raises nothing and gives the task of the table. -/
def UsableOverHttp (around : Surroundings) (apiBaseUrl : String) (site : Site) : Prop :=
  ∃ next site', ((getNextPendingTaskViaHttp apiBaseUrl).run (answer around)).run site =
      .ok next site' ∧
    next.map Prod.fst =
      (getNextPendingTask site.database.tasks).map fun task => (task.1 : ℤ)

def NamedQueue (table : TaskTable) : Prop :=
  ∀ task ∈ table.rows, task.2.status = .pending → Filled task.2.taskName

variable {around : Surroundings} {apiBaseUrl : String} {site : Site}

lemma legibleQueue_iff {table : TaskTable} (h : StoredRows table) :
    LegibleQueue table.rows ↔ NamedQueue table :=
  forall₂_congr fun task htask => imp_congr_right fun _ => (h task htask).legible_iff

lemma not_usable_of_error {e : WmsError}
    (h : nextPendingOf (tasksPayload site.database.tasks) = .error e) :
    ¬ UsableOverHttp around apiBaseUrl site := by
  rintro ⟨next, site', hrun, -⟩
  obtain ⟨-, -, hnext⟩ := run_getNextPendingTaskViaHttp hrun
  simp [h] at hnext

theorem stored_tasks_usable_over_http_iff (around : Surroundings) (apiBaseUrl : String)
    (ops : List StoreOp) (hfinite : ∀ op ∈ ops, op.Finite) (site : Site)
    (hsite : site.database = runAll StoreOp.step {} ops) :
    UsableOverHttp around apiBaseUrl site ↔ NamedQueue site.database.tasks := by
  have hstored : StoredRows site.database.tasks := hsite ▸ storedRows_run hfinite
  rw [← legibleQueue_iff hstored]
  constructor
  · intro husable
    by_contra hlegible
    obtain ⟨e, he⟩ := nextPendingOf_error_iff.mpr hlegible
    exact not_usable_of_error he husable
  · intro hlegible
    have hall : (listTasks site.database.tasks).all (fun task => task.2.finite) = true :=
      List.all_eq_true.mpr fun task htask => (hstored task htask).finite
    have hnext := nextPendingOf_of_legible hlegible fun task htask => (hstored task htask).created.2
    have hends : Ends ((getNextPendingTaskViaHttp apiBaseUrl).run (answer around)) site
        (fun next _ => next = (getNextPendingTask site.database.tasks).map Task.asRead)
        (fun _ => False) :=
      ends_getNextPendingTaskViaHttp_of_ok hall hnext rfl
    obtain ⟨next, site', hrun, rfl⟩ := hends.run_ok
    refine ⟨_, site', hrun, ?_⟩
    rw [Option.map_map]
    rfl

def storeSite (ops : List StoreOp) : Site where database := runAll StoreOp.step {} ops

lemma storeSite_database (ops : List StoreOp) :
    (storeSite ops).database = runAll StoreOp.step {} ops := rfl

lemma stationOp_finite (taskName : Option String) (now : UtcTime) :
    (StoreOp.create "station_a" (.ok (stationPoints (.integer 1))) taskName now).Finite := by
  intro resolved pose h
  have hstation : resolveTargetPose "station_a" (.ok (stationPoints (.integer 1))) =
      .ok ("station_a", ⟨"map", .finite 1, .finite 2, .finite 0⟩) := by
    decide +kernel
  rw [hstation, Except.ok.injEq, Prod.mk.injEq] at h
  obtain ⟨-, rfl⟩ := h
  exact ⟨rfl, rfl, rfl⟩

def namedOps : List StoreOp :=
  [.create "station_a" (.ok (stationPoints (.integer 1))) (some " restock ") ⟨2026, 5, 13, 8, 1, 0⟩,
    .create "station_a" (.ok (stationPoints (.integer 1))) none ⟨2026, 5, 13, 8, 0, 0⟩,
    .update 1 "failed" none ⟨2026, 5, 13, 8, 2, 0⟩,
    .update 1 "pending" (some "retry") ⟨2026, 5, 13, 8, 3, 0⟩]

theorem stored_tasks_usable_over_http_iff_named :
    UsableOverHttp (willingSurroundings (.integer 1)) "http://127.0.0.1:8000"
        (storeSite namedOps) ↔ NamedQueue (storeSite namedOps).database.tasks := by
  refine stored_tasks_usable_over_http_iff (willingSurroundings (.integer 1))
    "http://127.0.0.1:8000" namedOps ?_ (storeSite namedOps) (storeSite_database namedOps)
  intro op hop
  simp only [namedOps, List.mem_cons, List.not_mem_nil, or_false] at hop
  rcases hop with rfl | rfl | rfl | rfl
  · exact stationOp_finite _ _
  · exact stationOp_finite _ _
  · trivial
  · trivial

def blankOps : List StoreOp :=
  [.create "station_a" (.ok (stationPoints (.integer 1))) (some " ") ⟨2026, 5, 13, 8, 0, 0⟩]

theorem blank_name_is_unusable :
    ¬ ∀ around apiBaseUrl ops, (∀ op ∈ ops, op.Finite) → ∀ site : Site,
      site.database = runAll StoreOp.step {} ops → UsableOverHttp around apiBaseUrl site := by
  intro h
  have herror : nextPendingOf (tasksPayload (storeSite blankOps).database.tasks) = .error
      (invalidPayload "HTTP task payload field \"task_name\" must be a non-blank string.") := by
    decide +kernel
  refine not_usable_of_error herror
    (h (willingSurroundings (.integer 1)) "http://127.0.0.1:8000" blankOps ?_
      (storeSite blankOps) (storeSite_database blankOps))
  intro op hop
  rw [List.mem_singleton.mp hop]
  exact stationOp_finite _ _

end Wms
