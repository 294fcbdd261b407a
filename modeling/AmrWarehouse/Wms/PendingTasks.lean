import AmrWarehouse.Wms.TaskTable

/-! What the statements on the task table do to the pending tasks, and what resolving a target
gives. -/

namespace Wms

open Library

section Order

instance : Std.Total Earlier where
  total a b := by
    rcases lt_trichotomy a.2.createdAt b.2.createdAt with hlt | heq | hgt
    · exact Or.inl (Or.inl hlt)
    · rcases le_total a.1 b.1 with hle | hle
      · exact Or.inl (Or.inr ⟨heq, hle⟩)
      · exact Or.inr (Or.inr ⟨heq.symm, hle⟩)
    · exact Or.inr (Or.inl hgt)

instance : IsTrans Task Earlier where
  trans a b c hab hbc := by
    rcases hab with hab | ⟨hab, hid⟩
    · rcases hbc with hbc | ⟨hbc, -⟩
      · exact Or.inl (lt_trans hab hbc)
      · exact Or.inl (hbc ▸ hab)
    · rcases hbc with hbc | ⟨hbc, hid'⟩
      · exact Or.inl (hab ▸ hbc)
      · exact Or.inr ⟨hab.trans hbc, hid.trans hid'⟩

lemma Earlier.id_eq {a b : Task} (hab : Earlier a b) (hba : Earlier b a) : a.1 = b.1 := by
  rcases hab with hab | ⟨hab, hid⟩
  · rcases hba with hba | ⟨hba, -⟩
    · exact (lt_asymm hab hba).elim
    · exact (lt_irrefl _ (hba ▸ hab)).elim
  · rcases hba with hba | ⟨-, hid'⟩
    · exact (lt_irrefl _ (hab ▸ hba)).elim
    · exact le_antisymm hid hid'

end Order

variable {table : TaskTable} {task : Task} {rest : List Task} {f : TaskRow → TaskRow}

lemma mem_pendingTasks :
    task ∈ pendingTasks table ↔ task ∈ table.rows ∧ task.2.status = .pending := by
  rw [pendingTasks, List.mem_insertionSort, List.mem_filter, decide_eq_true_eq]

lemma pairwise_pendingTasks (table : TaskTable) : (pendingTasks table).Pairwise Earlier :=
  List.pairwise_insertionSort _ _

lemma perm_pendingTasks (table : TaskTable) :
    (pendingTasks table).Perm (table.rows.filter fun task => task.2.status = .pending) :=
  List.perm_insertionSort _ _

lemma nodup_pendingTasks (table : TaskTable) : ((pendingTasks table).map Prod.fst).Nodup := by
  rw [((perm_pendingTasks table).map Prod.fst).nodup_iff]
  have hids : (table.rows.map Prod.fst).Nodup := table.increasing.imp fun h => Nat.ne_of_lt h
  exact hids.sublist (List.filter_sublist.map Prod.fst)

lemma pendingTasks_update (id : ℕ) (hf : ∀ row, (f row).status ≠ .pending) :
    pendingTasks (table.update id f) = (pendingTasks table).filter fun task => task.1 ≠ id := by
  have hfilter : ∀ rows : List Task,
      ((rows.map (AutoTable.updateRow id f)).filter fun task => task.2.status = .pending) =
        (rows.filter fun task => task.2.status = .pending).filter fun task => task.1 ≠ id := by
    intro rows
    induction rows with
    | nil => rfl
    | cons task rows ih =>
      by_cases hid : task.1 = id
      · by_cases hpending : task.2.status = .pending
        · simp [AutoTable.updateRow, hid, hf, hpending, ih]
        · simp [AutoTable.updateRow, hid, hf, hpending, ih]
      · by_cases hpending : task.2.status = .pending
        · simp [AutoTable.updateRow, hid, hpending, ih]
        · simp [AutoTable.updateRow, hid, hpending, ih]
  refine List.Perm.eq_of_pairwise ?_ (pairwise_pendingTasks _)
    ((pairwise_pendingTasks table).filter _) ?_
  · intro a b ha hb hab hba
    have ha' := (mem_pendingTasks.mp ha).1
    obtain ⟨hb', hne⟩ := List.mem_filter.mp hb
    have hb'' : b ∈ (table.update id f).rows := by
      refine List.mem_map.mpr ⟨b, (mem_pendingTasks.mp hb').1, ?_⟩
      simp only [ne_eq, decide_not, Bool.not_eq_true', decide_eq_false_iff_not] at hne
      simp [AutoTable.updateRow, hne]
    exact AutoTable.eq_of_mem_of_id ha' hb'' (hab.id_eq hba)
  · refine (perm_pendingTasks _).trans ?_
    rw [AutoTable.update, hfilter]
    exact ((perm_pendingTasks table).filter _).symm

lemma ne_of_mem_rest (h : pendingTasks table = task :: rest) {other : Task} (ho : other ∈ rest) :
    other.1 ≠ task.1 := by
  have hnodup := nodup_pendingTasks table
  rw [h, List.map_cons, List.nodup_cons] at hnodup
  intro heq
  exact hnodup.1 (heq ▸ List.mem_map_of_mem ho)

lemma filter_rest (h : pendingTasks table = task :: rest) :
    (rest.filter fun other => other.1 ≠ task.1) = rest := by
  rw [List.filter_eq_self]
  intro other hother
  exact decide_eq_true (ne_of_mem_rest h hother)

lemma pendingTasks_settle (h : pendingTasks table = task :: rest)
    (hf : ∀ row, (f row).status ≠ .pending) : pendingTasks (table.update task.1 f) = rest := by
  rw [pendingTasks_update task.1 hf, h, List.filter_cons_of_neg (by simp), filter_rest h]

lemma getNextPendingTask_eq_none : getNextPendingTask table = none ↔ pendingTasks table = [] :=
  List.head?_eq_none_iff

lemma getNextPendingTask_eq_some :
    getNextPendingTask table = some task ↔ ∃ rest, pendingTasks table = task :: rest := by
  rw [getNextPendingTask, List.head?_eq_some_iff]

lemma getNextPendingTask_find (h : getNextPendingTask table = some task) :
    table.find? task.1 = some task.2 ∧ task.2.status = .pending := by
  obtain ⟨rest, hrest⟩ := getNextPendingTask_eq_some.mp h
  obtain ⟨hmem, hpending⟩ := mem_pendingTasks.mp (hrest ▸ List.mem_cons_self)
  exact ⟨AutoTable.find?_of_mem hmem, hpending⟩

lemma run_updateTaskStatus {database : Database} {id : ℕ} {row : TaskRow}
    (h : database.tasks.find? id = some row) (status : TaskStatus) (reason : Option String)
    (now : UtcTime) : (updateTaskStatus id status.value reason now).run database =
      .ok (id, row.withStatus status reason now.timestamp)
        ⟨database.tasks.update id (TaskRow.withStatus status reason now.timestamp),
          database.written ++ [(id, status)]⟩ := by
  simp only [updateTaskStatus, TaskStatus.ofValue?_value, EStateM.run_bind, EStateM.run_get, h,
    EStateM.run_set, EStateM.run_pure]

@[simp] lemma withStatus_status (status : TaskStatus) (reason : Option String)
    (updatedAt : String) (row : TaskRow) :
    (row.withStatus status reason updatedAt).status = status := rfl

section Resolution

variable {requested resolved : String} {file : Except WmsError TaskPoints} {pose : Pose}

lemma resolveTargetName_isSome {points : TaskPoints}
    (h : resolveTargetName requested points = .ok resolved) : (points.get? resolved).isSome := by
  rw [resolveTargetName] at h
  split_ifs at h with hdirect
  · obtain rfl := Except.ok.inj h
    exact hdirect
  · split at h
    · split_ifs at h with hfallback
      · obtain rfl := Except.ok.inj h
        exact hfallback
      · simp [resolveTargetName.notFound] at h
    · simp [resolveTargetName.notFound] at h

lemma resolveTargetName_self {points : TaskPoints} (h : (points.get? resolved).isSome) :
    resolveTargetName resolved points = .ok resolved := by
  rw [resolveTargetName, if_pos h]

lemma resolveTargetPose_ok : resolveTargetPose requested file = .ok (resolved, pose) ↔
    ∃ points, file = .ok points ∧ resolveTargetName requested points = .ok resolved ∧
      poseOf resolved points = .ok pose := by
  cases file with
  | error e => simp [resolveTargetPose, bind, Except.bind]
  | ok points =>
    cases hname : resolveTargetName requested points with
    | error e => simp [resolveTargetPose, bind, Except.bind, hname]
    | ok name =>
      cases hpose : poseOf name points with
      | error e =>
        simp only [resolveTargetPose, bind, Except.bind, hname, hpose, Except.ok.injEq,
          exists_eq_left', reduceCtorEq, false_iff]
        rintro ⟨rfl, hok⟩
        simp [hpose] at hok
      | ok found =>
        simp only [resolveTargetPose, bind, Except.bind, hname, hpose, pure, Except.pure,
          Except.ok.injEq, Prod.mk.injEq, exists_eq_left']
        constructor
        · rintro ⟨rfl, rfl⟩
          exact ⟨rfl, hpose⟩
        · rintro ⟨rfl, hok⟩
          exact ⟨rfl, Except.ok.inj (hpose.symm.trans hok)⟩

lemma poseOf_ok {points : TaskPoints} (h : poseOf resolved points = .ok pose) :
    resolved ∈ supportedTargetNames ∧ pose.frameId = "map" := by
  by_cases hsupported : resolved ∈ supportedTargetNames
  · refine ⟨hsupported, ?_⟩
    simp only [poseOf, hsupported, not_true_eq_false, if_false, bind, Except.bind] at h
    split at h
    · simp at h
    · split at h
      · simp at h
      · split at h
        · simp at h
        · split at h
          · simp at h
          · obtain rfl := Except.ok.inj h
            rfl
  · simp [poseOf, hsupported, throw, throwThe, MonadExceptOf.throw, bind, Except.bind] at h

lemma resolveTargetPose_again (h : resolveTargetPose requested file = .ok (resolved, pose)) :
    resolveTargetPose resolved file = .ok (resolved, pose) := by
  obtain ⟨points, hfile, hname, hpose⟩ := resolveTargetPose_ok.mp h
  exact resolveTargetPose_ok.mpr
    ⟨points, hfile, resolveTargetName_self (resolveTargetName_isSome hname), hpose⟩

lemma floatOfInt_error {n : ℤ} {e : WmsError} (h : floatOfInt n = .error e) :
    e.kind = .overflowError := by
  rw [floatOfInt] at h
  split_ifs at h
  obtain rfl := Except.error.inj h
  rfl

lemma coordinate_error {field : String} {value : Option Scalar} {e : WmsError}
    (h : coordinate resolved field value = .error e) :
    e.kind = .valueError ∨ e.kind = .overflowError := by
  unfold coordinate at h
  split at h
  · obtain rfl := Except.error.inj h
    exact Or.inl rfl
  · split at h
    · exact Or.inr (floatOfInt_error h)
    · simp at h
    · simp at h
    · obtain rfl := Except.error.inj h
      exact Or.inl rfl

lemma poseOf_error {points : TaskPoints} {e : WmsError} (h : poseOf resolved points = .error e) :
    e.kind = .valueError ∨ e.kind = .overflowError := by
  by_cases hsupported : resolved ∈ supportedTargetNames
  · simp only [poseOf, hsupported, not_true_eq_false, if_false, bind, Except.bind, throw, throwThe,
      MonadExceptOf.throw] at h
    split at h
    · obtain rfl := Except.error.inj h
      exact Or.inl rfl
    · split at h
      · rename_i hx
        obtain rfl := Except.error.inj h
        exact coordinate_error hx
      · split at h
        · rename_i hy
          obtain rfl := Except.error.inj h
          exact coordinate_error hy
        · split at h
          · rename_i hyaw
            obtain rfl := Except.error.inj h
            exact coordinate_error hyaw
          · simp [pure, Except.pure] at h
  · simp only [poseOf, hsupported, not_false_eq_true, if_true, bind, Except.bind, throw, throwThe,
      MonadExceptOf.throw] at h
    obtain rfl := Except.error.inj h
    exact Or.inl rfl

lemma resolveTargetName_error {points : TaskPoints} {e : WmsError}
    (h : resolveTargetName requested points = .error e) : e.kind = .keyError := by
  rw [resolveTargetName] at h
  split_ifs at h
  split at h
  · split_ifs at h
    obtain rfl := Except.error.inj h
    rfl
  · obtain rfl := Except.error.inj h
    rfl

lemma resolveTargetPose_error {e : WmsError} (h : resolveTargetPose requested file = .error e) :
    file = .error e ∨ e.kind = .keyError ∨ e.kind = .valueError ∨ e.kind = .overflowError := by
  cases file with
  | error e' =>
    obtain rfl := Except.error.inj h
    exact Or.inl rfl
  | ok points =>
    right
    cases hname : resolveTargetName requested points with
    | error e' =>
      simp only [resolveTargetPose, bind, Except.bind, hname] at h
      obtain rfl := Except.error.inj h
      exact Or.inl (resolveTargetName_error hname)
    | ok name =>
      cases hpose : poseOf name points with
      | error e' =>
        simp only [resolveTargetPose, bind, Except.bind, hname, hpose] at h
        obtain rfl := Except.error.inj h
        exact Or.inr (poseOf_error hpose)
      | ok pose => simp [resolveTargetPose, bind, Except.bind, hname, hpose, pure, Except.pure] at h

end Resolution

end Wms
