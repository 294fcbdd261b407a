import AmrWarehouse.Library.Runs
import AmrWarehouse.Wms.HttpTasks
import AmrWarehouse.Wms.PendingTasks

/-! The rows of a table that was filled over the API. -/

namespace Wms

open Library

inductive TableOp
  | post (payload : Fields) (now : UtcTime)
  | update (id : ℕ) (status : String) (statusReason : Option String) (now : UtcTime)

def TableOp.step (file : Except WmsError TaskPoints) (database : Database) : TableOp → Database
  | post payload now => final (createTaskEndpoint file now payload) database
  | update id status statusReason now =>
    final (updateTaskStatus id status statusReason now) database

def Plain (text : String) : Prop := Filled text ∧ Trimmed text

instance (text : String) : Decidable (Plain text) := inferInstanceAs (Decidable (_ ∧ _))

section Timestamps

lemma digitChar_not_space (n : ℕ) : isSpace (n % 10).digitChar = false := by
  have h : n % 10 < 10 := Nat.mod_lt n (by decide)
  generalize n % 10 = d at h
  interval_cases d <;> decide

lemma head?_decimalPlaces (places n : ℕ) :
    ∀ c ∈ (decimalPlaces (places + 1) n).head?, isSpace c = false := by
  induction places generalizing n with
  | zero =>
    intro c hc
    simp only [decimalPlaces, List.nil_append, List.head?_cons, Option.mem_def,
      Option.some.injEq] at hc
    exact hc ▸ digitChar_not_space n
  | succ places ih =>
    intro c hc
    rw [decimalPlaces, List.head?_append] at hc
    cases hhead : (decimalPlaces (places + 1) (n / 10)).head? with
    | some d =>
      rw [hhead, Option.some_or, Option.mem_some] at hc
      exact hc ▸ ih (n / 10) d (Option.mem_def.mpr hhead)
    | none => simp [decimalPlaces] at hhead

lemma trimmed_of_digits (places n : ℕ) (middle : List Char) :
    Trimmed (String.ofList (decimalPlaces (places + 1) n ++ (middle ++ ['Z']))) := by
  apply trimmed_of_ends
  · intro c hc
    rw [String.toList_ofList, List.head?_append] at hc
    cases hhead : (decimalPlaces (places + 1) n).head? with
    | some d =>
      rw [hhead, Option.some_or, Option.mem_some] at hc
      exact hc ▸ head?_decimalPlaces places n d (Option.mem_def.mpr hhead)
    | none => simp [decimalPlaces] at hhead
  · intro c hc
    rw [String.toList_ofList, ← List.append_assoc, List.getLast?_concat, Option.mem_some] at hc
    subst hc
    decide

lemma timestamp_trimmed (t : UtcTime) : Trimmed t.timestamp := by
  have h := trimmed_of_digits 3 t.year ('-' :: decimalPlaces 2 t.month ++
    '-' :: decimalPlaces 2 t.day ++ 'T' :: decimalPlaces 2 t.hour ++
    ':' :: decimalPlaces 2 t.minute ++ ':' :: decimalPlaces 2 t.second)
  simpa only [UtcTime.timestamp, List.append_assoc] using h

lemma timestamp_plain (t : UtcTime) : Plain t.timestamp := by
  refine ⟨filled_of_trimmed (timestamp_trimmed t) ?_, timestamp_trimmed t⟩
  intro h
  have hlist := congrArg String.toList h
  simp [UtcTime.timestamp] at hlist

end Timestamps

section Rows

/-- A row as posting it leaves it, but for its status, its reason and its last update. -/
structure Posted (file : Except WmsError TaskPoints) (row : TaskRow) : Prop where
  resolved : resolveTargetPose row.targetName file =
    .ok (row.targetName, ⟨row.frameId, row.x, row.y, row.yaw⟩)
  named : Plain row.taskName
  created : Plain row.createdAt
  updated : Plain row.updatedAt

variable {file : Except WmsError TaskPoints} {row : TaskRow}

lemma Posted.frame (h : Posted file row) : row.frameId = "map" := by
  obtain ⟨_, _, _, hpose⟩ := resolveTargetPose_ok.mp h.resolved
  exact (poseOf_ok hpose).2

lemma supported_plain {targetName : String} (h : targetName ∈ supportedTargetNames) :
    Plain targetName := by
  simp only [supportedTargetNames, List.mem_cons, List.not_mem_nil, or_false] at h
  rcases h with h | h | h | h | h | h <;> rw [h] <;> decide +kernel

lemma Posted.target (h : Posted file row) : Plain row.targetName := by
  obtain ⟨_, _, _, hpose⟩ := resolveTargetPose_ok.mp h.resolved
  exact supported_plain (poseOf_ok hpose).1

lemma Posted.withStatus (h : Posted file row) (status : TaskStatus) (reason : Option String)
    (now : UtcTime) : Posted file (row.withStatus status reason now.timestamp) :=
  ⟨h.resolved, h.named, h.created, timestamp_plain now⟩

lemma buildTaskName_trimmed (targetName : String) (now : UtcTime) :
    Plain (buildTaskName targetName now) := by
  have hcompact : Trimmed now.compact := by
    have h := trimmed_of_digits 3 now.year (decimalPlaces 2 now.month ++
      decimalPlaces 2 now.day ++ 'T' :: decimalPlaces 2 now.hour ++ decimalPlaces 2 now.minute ++
      decimalPlaces 2 now.second)
    simpa only [UtcTime.compact, List.append_assoc] using h
  have hcompact_ne : now.compact ≠ "" := by
    intro h
    have hlist := congrArg String.toList h
    simp [UtcTime.compact] at hlist
  have hname : buildTaskName targetName now =
      ("mock-task-" ++ targetName ++ "-") ++ now.compact := rfl
  have htrimmed : Trimmed (buildTaskName targetName now) := by
    rw [hname]
    refine trimmed_append ?_ ?_ hcompact hcompact_ne
    · intro h
      have hlist := congrArg String.toList h
      simp at hlist
    · intro c hc
      simp only [String.toList_append, List.append_assoc] at hc
      obtain rfl : 'm' = c := by simpa using hc
      decide
  refine ⟨filled_of_trimmed htrimmed ?_, htrimmed⟩
  rw [hname]
  intro h
  have hlist := congrArg String.toList h
  simp at hlist

lemma posted_newTaskRow {requested resolved : String} {pose : Pose}
    (hpose : resolveTargetPose requested file = .ok (resolved, pose)) {taskName : Option String}
    (hname : ∀ name ∈ taskName, Plain name) (now : UtcTime) :
    Posted file (newTaskRow resolved pose taskName now) where
  resolved := resolveTargetPose_again hpose
  named := by
    cases taskName with
    | none => exact buildTaskName_trimmed resolved now
    | some name =>
      rw [newTaskRow]
      dsimp only
      split_ifs
      · exact buildTaskName_trimmed resolved now
      · exact hname name rfl
  created := timestamp_plain now
  updated := timestamp_plain now

def PostedRows (file : Except WmsError TaskPoints) (table : TaskTable) : Prop :=
  ∀ task ∈ table.rows, Posted file task.2

variable {database : Database}

lemma requestedTaskName_ok {payload : Fields} {taskName : Option String}
    (h : requestedTaskName payload = .ok taskName) :
    ∀ name ∈ taskName, Plain name := by
  rw [requestedTaskName] at h
  split at h
  · obtain rfl := Except.ok.inj h
    simp
  · obtain rfl := Except.ok.inj h
    simp
  · split_ifs at h with hfilled
    obtain rfl := Except.ok.inj h
    intro name hname
    obtain rfl := Option.mem_some.mp hname
    exact ⟨filled_of_trimmed (trimmed_strip _) hfilled, trimmed_strip _⟩
  · simp at h

lemma PostedRows.insert {table : TaskTable} {row : TaskRow} (h : PostedRows file table)
    (hrow : Posted file row) : PostedRows file (table.insert row) := by
  intro task htask
  rcases List.mem_append.mp htask with hold | hnew
  · exact h task hold
  · rw [List.mem_singleton.mp hnew]
    exact hrow

lemma PostedRows.update {table : TaskTable} (h : PostedRows file table) (id : ℕ)
    (status : TaskStatus) (reason : Option String) (now : UtcTime) :
    PostedRows file (table.update id (TaskRow.withStatus status reason now.timestamp)) := by
  intro task htask
  obtain ⟨old, hold, rfl⟩ := List.mem_map.mp htask
  rw [AutoTable.updateRow]
  split_ifs
  · exact (h old hold).withStatus status reason now
  · exact h old hold

lemma ends_createTask (h : PostedRows file database.tasks) (requested : String)
    {taskName : Option String} (hname : ∀ name ∈ taskName, Plain name)
    (now : UtcTime) : Ends (createTask requested file taskName now) database
      (fun _ database' => PostedRows file database'.tasks)
      (fun database' => PostedRows file database'.tasks) := by
  rw [createTask, ends_bind]
  cases hpose : resolveTargetPose requested file with
  | error e => exact h
  | ok found => exact h.insert (posted_newTaskRow hpose hname now)

lemma ends_updateTaskStatus (h : PostedRows file database.tasks) (id : ℕ) (status : String)
    (reason : Option String) (now : UtcTime) :
    Ends (updateTaskStatus id status reason now) database
      (fun _ database' => PostedRows file database'.tasks)
      (fun database' => PostedRows file database'.tasks) := by
  rw [updateTaskStatus]
  cases TaskStatus.ofValue? status with
  | none => exact h
  | some status =>
    dsimp only
    rw [ends_bind, ends_get]
    cases database.tasks.find? id with
    | none => exact h
    | some row => exact h.update id status reason now

lemma ends_createTaskEndpoint (h : PostedRows file database.tasks) (now : UtcTime)
    (payload : Fields) : Ends (createTaskEndpoint file now payload) database
      (fun _ database' => PostedRows file database'.tasks)
      (fun database' => PostedRows file database'.tasks) := by
  rw [createTaskEndpoint]
  split
  · rename_i raw _
    by_cases hfilled : Filled raw
    · rw [if_neg (not_not.mpr hfilled), ends_bind]
      cases hname : requestedTaskName payload with
      | error e => exact h
      | ok taskName =>
        rw [ends_orRaise_ok, ends_bind, ends_mapError]
        refine (ends_createTask h (strip raw) (requestedTaskName_ok hname) now).mono ?_
          (fun _ h' => h')
        intro task database' h'
        exact ends_respond h' h'
    · rw [if_pos hfilled]
      exact h
  · exact h

lemma postedRows_run (h : PostedRows file database.tasks) (ops : List TableOp) :
    PostedRows file (runAll (TableOp.step file) database ops).tasks := by
  refine runAll_invariant (fun _ (after : Database) => PostedRows file after.tasks) h ?_ ops
  intro past op hpast
  cases op with
  | post payload now => exact (ends_createTaskEndpoint hpast now payload).final
  | update id status reason now => exact (ends_updateTaskStatus hpast id status reason now).final

end Rows

end Wms
