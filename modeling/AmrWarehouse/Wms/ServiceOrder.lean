import AmrWarehouse.Library.FifoQueue
import AmrWarehouse.Wms.Interleaving

/-! The pending tasks of the table are a queue: created tasks enter it at the back, whatever else is
done, and executors take them from the front. -/

namespace Wms

open Library

def idsOf (table : TaskTable) : List ℕ := (pendingTasks table).map Prod.fst

def pendingIds (site : Site) : List ℕ := idsOf site.database.tasks

inductive QueueOp
  | create (requested : String) (file : Except WmsError TaskPoints) (taskName : Option String)
      (now : UtcTime)
  | serve (around : Surroundings) (options : ExecutorOptions)
  | patch (now : UtcTime) (taskId : ℤ) (payload : Fields)

namespace QueueOp

def step (site : Site) : QueueOp → Site
  | create requested file taskName now =>
    { site with database := final (createTask requested file taskName now) site.database }
  | serve around options => final (runOnce around { options with execute := true }) site
  | patch now taskId payload =>
    { site with database := final (patchTaskStatusEndpoint now taskId payload) site.database }

/-- The clock is not behind that of any task, and no client puts a task back. -/
def InTime (site : Site) : QueueOp → Prop
  | create _ _ _ now => ∀ task ∈ site.database.tasks.rows, task.2.createdAt ≤ now.timestamp
  | serve _ _ => True
  | patch _ taskId payload => ∀ write ∈ patchWrites taskId payload, write.2 ≠ .pending

instance (site : Site) : (op : QueueOp) → Decidable (op.InTime site)
  | create _ _ _ now =>
    inferInstanceAs (Decidable (∀ task ∈ site.database.tasks.rows,
      task.2.createdAt ≤ now.timestamp))
  | serve _ _ => inferInstanceAs (Decidable True)
  | patch _ taskId payload =>
    inferInstanceAs (Decidable (∀ write ∈ patchWrites taskId payload, write.2 ≠ .pending))

def isServe : QueueOp → Bool
  | serve _ _ => true
  | _ => false

end QueueOp

def missing (ids others : List ℕ) : List ℕ := ids.filter (· ∉ others)

def QueueOp.creates (site : Site) (op : QueueOp) : List ℕ :=
  match op with
  | .create _ _ _ _ => missing (pendingIds (op.step site)) (pendingIds site)
  | _ => []

def QueueOp.takes (site : Site) (op : QueueOp) : List ℕ :=
  match op with
  | .serve _ _ => missing (pendingIds site) (pendingIds (op.step site))
  | _ => []

/-- The pending task that a client's request takes off the queue: the one it names, where it asks
for a status that there is. -/
def QueueOp.withdraws (site : Site) (op : QueueOp) : List ℕ :=
  match op with
  | .patch _ taskId payload =>
    ((patchWrites taskId payload).map Prod.fst).toList.filter (· ∈ pendingIds site)
  | _ => []

def createdIds : Site → List QueueOp → List ℕ
  | _, [] => []
  | site, op :: ops => op.creates site ++ createdIds (op.step site) ops

def takenIds : Site → List QueueOp → List ℕ
  | _, [] => []
  | site, op :: ops => op.takes site ++ takenIds (op.step site) ops

def withdrawnIds : Site → List QueueOp → List ℕ
  | _, [] => []
  | site, op :: ops => op.withdraws site ++ withdrawnIds (op.step site) ops

section Tables

variable {table : TaskTable} {row : TaskRow} {id : ℕ} {status : TaskStatus} {after : TaskTable}

lemma nodup_idsOf (table : TaskTable) : (idsOf table).Nodup := nodup_pendingTasks table

lemma idsOf_insert (hrow : row.status = .pending)
    (hlast : ∀ task ∈ table.rows, task.2.createdAt ≤ row.createdAt) :
    idsOf (table.insert row) = idsOf table ++ [table.lastId + 1] := by
  have hpending : pendingTasks (table.insert row) =
      pendingTasks table ++ [(table.lastId + 1, row)] := by
    refine List.Perm.eq_of_pairwise ?_ (pairwise_pendingTasks _) ?_ ?_
    · intro a b ha hb hab hba
      have hb' : b ∈ (table.insert row).rows := by
        rcases List.mem_append.mp hb with hold | hnew
        · exact List.mem_append_left _ (mem_pendingTasks.mp hold).1
        · exact List.mem_append_right _ hnew
      exact AutoTable.eq_of_mem_of_id (mem_pendingTasks.mp ha).1 hb' (hab.id_eq hba)
    · refine List.pairwise_append.mpr ⟨pairwise_pendingTasks table, by simp, ?_⟩
      intro task htask other hother
      rw [List.mem_singleton.mp hother]
      have hmem := (mem_pendingTasks.mp htask).1
      rcases (hlast task hmem).lt_or_eq with hlt | heq
      · exact Or.inl hlt
      · exact Or.inr ⟨heq, (table.bounded task hmem).2.trans (Nat.le_succ _)⟩
    · refine (perm_pendingTasks _).trans ?_
      rw [AutoTable.insert, List.filter_append, List.filter_cons_of_pos (by simpa using hrow)]
      exact (perm_pendingTasks table).symm.append_right _
  rw [idsOf, hpending, List.map_append]
  rfl

lemma le_lastId_of_mem (h : id ∈ idsOf table) : id ≤ table.lastId := by
  obtain ⟨task, htask, rfl⟩ := List.mem_map.mp h
  exact (table.bounded task (mem_pendingTasks.mp htask).1).2

lemma Wrote.lastId_eq (h : Wrote id status table after) : after.lastId = table.lastId := by
  obtain ⟨_, _, _, -, rfl⟩ := h
  rfl

lemma Wrote.idsOf_of_ne (h : Wrote id status table after) (hstatus : status ≠ .pending) :
    idsOf after = (idsOf table).filter (· ≠ id) := by
  obtain ⟨_, reason, updatedAt, -, rfl⟩ := h
  rw [idsOf, pendingTasks_update id fun _ => hstatus, idsOf, List.filter_map]
  rfl

lemma Wrote.idsOf_of_pending (h : Wrote id .pending table after) (hid : id ∈ idsOf table) :
    idsOf after = idsOf table := by
  obtain ⟨_, reason, updatedAt, -, rfl⟩ := h
  set f : TaskRow → TaskRow := TaskRow.withStatus .pending reason updatedAt
  have hpending : pendingTasks (table.update id f) =
      (pendingTasks table).map (AutoTable.updateRow id f) := by
    refine List.Perm.eq_of_pairwise ?_ (pairwise_pendingTasks _) ?_ ?_
    · intro a b ha hb hab hba
      refine AutoTable.eq_of_mem_of_id (mem_pendingTasks.mp ha).1 ?_ (hab.id_eq hba)
      obtain ⟨old, hold, rfl⟩ := List.mem_map.mp hb
      exact List.mem_map_of_mem (mem_pendingTasks.mp hold).1
    · refine List.pairwise_map.mpr ((pairwise_pendingTasks table).imp ?_)
      intro a b hab
      have hcreated : ∀ task : Task, (AutoTable.updateRow id f task).2.createdAt =
          task.2.createdAt := by
        intro task
        rw [AutoTable.updateRow]
        split_ifs <;> rfl
      rw [Earlier, hcreated, hcreated, AutoTable.updateRow_fst, AutoTable.updateRow_fst]
      exact hab
    · refine (perm_pendingTasks _).trans ?_
      rw [AutoTable.update, List.filter_map]
      refine List.Perm.map _ ?_
      have hsame : (table.rows.filter
          ((fun task => decide (task.2.status = .pending)) ∘ AutoTable.updateRow id f)) =
            table.rows.filter fun task => decide (task.2.status = .pending) := by
        refine List.filter_congr fun task htask => ?_
        rw [Function.comp_apply, AutoTable.updateRow]
        split_ifs with heq
        · obtain ⟨other, hother, hsame⟩ := List.mem_map.mp hid
          obtain ⟨hmem, hstatus⟩ := mem_pendingTasks.mp hother
          obtain rfl := AutoTable.eq_of_mem_of_id hmem htask (hsame.trans heq.symm)
          exact decide_eq_decide.mpr (iff_of_true rfl hstatus)
        · rfl
      rw [hsame]
      exact (perm_pendingTasks table).symm
  rw [idsOf, hpending, List.map_map, idsOf]
  exact List.map_congr_left fun task _ => AutoTable.updateRow_fst id f task

end Tables

section Serving

def Serves (ids : List ℕ) (stage : Stage) (site : Site) : Prop :=
  match stage with
  | .fresh => pendingIds site = ids
  | .selected id => pendingIds site = ids ∧ ids.head? = some id
  | .claimed id => pendingIds site = ids.tail ∧ id ∉ ids.tail
  | .sent id => pendingIds site = ids.tail ∧ id ∉ ids.tail
  | .finished => pendingIds site = ids ∨ pendingIds site = ids.tail

variable {ids : List ℕ} {site : Site} {around : Surroundings} {id : ℕ}

lemma filter_head (hnodup : ids.Nodup) (h : ids.head? = some id) :
    ids.filter (· ≠ id) = ids.tail ∧ id ∉ ids.tail := by
  obtain ⟨rest, rfl⟩ := List.head?_eq_some_iff.mp h
  obtain ⟨hid, -⟩ := List.nodup_cons.mp hnodup
  refine ⟨?_, hid⟩
  rw [List.filter_cons_of_neg (by simp), List.tail_cons, List.filter_eq_self]
  intro other hother
  exact decide_eq_true fun heq => hid (heq ▸ hother)

lemma ends_answer_update {status : TaskStatus} {reason : Option String}
    {Q : Task → Site → Prop} {E : Site → Prop}
    (hwrote : ∀ task site', Wrote id status site.database.tasks site'.database.tasks → Q task site')
    (hsame : ∀ site', site'.database = site.database → E site') :
    Ends (answer around (.updateStatus id status reason)) site Q E := by
  change Ends (nowTimestamp around >>= fun now =>
    onDatabase (updateTaskStatus id status.value reason now)) site Q E
  simp only [nowTimestamp, onDatabase, ends_bind, ends_get, ends_set, ends_pure, ends_focus]
  refine ends_updateTaskStatus_wrote ?_ (hsame _ rfl)
  intro status' task database hstatus hdatabase
  rw [TaskStatus.ofValue?_value, Option.some.injEq] at hstatus
  exact hwrote task _ (hstatus ▸ hdatabase)

lemma ends_onCourse {α : Type} (call : Call Course α) :
    Ends (onCourse call) site (fun _ site' => site'.database = site.database)
      (fun site' => site'.database = site.database) := by
  rw [onCourse, ends_focus]
  exact ends_self.mono (fun _ _ _ => rfl) (fun _ _ => rfl)

lemma pendingIds_of_database {site' : Site} (h : site'.database = site.database) :
    pendingIds site' = pendingIds site :=
  congrArg (fun database : Database => idsOf database.tasks) h

lemma serves_answer (hnodup : ids.Nodup) (stage : Stage) (request : Request) (site : Site)
    (h : Serves ids stage site) (hasks : stage.Asks request) :
    Ends (answer around request) site
      (fun a site' => Serves ids (stage.after request (.ok a)) site')
      (fun site' => ∀ e, Serves ids (stage.after request (.error e)) site') := by
  cases hasks with
  | look =>
    change Serves ids (Stage.fresh.after .nextPendingTask
      (.ok (getNextPendingTask site.database.tasks))) site
    cases hnext : getNextPendingTask site.database.tasks with
    | none => exact Or.inl h
    | some task =>
      obtain ⟨rest, hrest⟩ := getNextPendingTask_eq_some.mp hnext
      refine ⟨h, ?_⟩
      rw [← h, pendingIds, idsOf, hrest]
      rfl
  | read id =>
    rw [answer]
    cases around.file with
    | ok points => exact h
    | error e => exact fun _ => h
  | wait id _ _ =>
    refine (ends_onCourse _).mono ?_ ?_
    · exact fun _ site' hsame => ⟨(pendingIds_of_database hsame).trans h.1, h.2⟩
    · exact fun site' hsame _ => Or.inl ((pendingIds_of_database hsame).trans h.1)
  | giveUp id reason =>
    refine ends_answer_update ?_ ?_
    · intro task site' hwrote
      refine Or.inr ((hwrote.idsOf_of_ne (by decide)).trans ?_)
      rw [← (filter_head hnodup h.2).1, ← h.1]
      rfl
    · exact fun site' hsame _ => Or.inl ((pendingIds_of_database hsame).trans h.1)
  | putBack id reason =>
    refine ends_answer_update ?_ ?_
    · intro task site' hwrote
      refine Or.inl ((hwrote.idsOf_of_pending ?_).trans h.1)
      rw [show idsOf site.database.tasks = ids from h.1]
      exact List.mem_of_head? h.2
    · exact fun site' hsame _ => Or.inl ((pendingIds_of_database hsame).trans h.1)
  | claim id reason =>
    obtain ⟨hfilter, hid⟩ := filter_head hnodup h.2
    refine ends_answer_update ?_ ?_
    · intro task site' hwrote
      refine ⟨(hwrote.idsOf_of_ne (by decide)).trans ?_, hid⟩
      rw [← hfilter, ← h.1]
      rfl
    · exact fun site' hsame _ => Or.inl ((pendingIds_of_database hsame).trans h.1)
  | go id _ _ =>
    refine (ends_onCourse _).mono ?_ ?_
    · exact fun _ site' hsame => ⟨(pendingIds_of_database hsame).trans h.1, h.2⟩
    · exact fun site' hsame _ => Or.inr ((pendingIds_of_database hsame).trans h.1)
  | settle id hstatus reason =>
    rename_i status
    have hfinished : ∀ r, (Stage.sent id).after (.updateStatus id status reason) r = .finished := by
      rcases hstatus with rfl | rfl <;> exact fun _ => rfl
    simp only [hfinished]
    refine ends_answer_update ?_ ?_
    · intro task site' hwrote
      have hne : status ≠ .pending := by
        rcases hstatus with rfl | rfl <;> decide
      refine Or.inr ((hwrote.idsOf_of_ne hne).trans ?_)
      rw [show idsOf site.database.tasks = ids.tail from h.1, List.filter_eq_self]
      intro other hother
      exact decide_eq_true fun heq => h.2 (heq ▸ hother)
    · exact fun site' hsame _ => Or.inr ((pendingIds_of_database hsame).trans h.1)

lemma pendingIds_serve (around : Surroundings) (options : ExecutorOptions) (site : Site) :
    pendingIds ((QueueOp.serve around options).step site) = pendingIds site ∨
      pendingIds ((QueueOp.serve around options).step site) = (pendingIds site).tail := by
  have hstages : ∀ site', (∃ stage, Serves (pendingIds site) stage site') →
      pendingIds site' = pendingIds site ∨ pendingIds site' = (pendingIds site).tail := by
    rintro site' ⟨stage, h⟩
    cases stage with
    | fresh => exact Or.inl h
    | selected id => exact Or.inl h.1
    | claimed id | sent id => exact Or.inr h.1
    | finished => exact h
  have hfollows : executorProtocol.Follows .fresh
      (runExecutorOnce none { options with execute := true }) := follows_runExecutorOnce rfl
  have hends : Ends ((runExecutorOnce none { options with execute := true }).run (answer around))
      site (fun _ site' => ∃ stage, Serves (pendingIds site) stage site')
      (fun site' => ∃ stage, Serves (pendingIds site) stage site') :=
    hfollows.ends (serves_answer (nodup_idsOf site.database.tasks)) rfl
  exact hstages _ hends.final

lemma lastId_answer {last : ℕ} (stage : Stage) (request : Request) (site : Site)
    (h : site.database.tasks.lastId = last) (hasks : stage.Asks request) :
    Ends (answer around request) site (fun _ site' => site'.database.tasks.lastId = last)
      (fun site' => site'.database.tasks.lastId = last) := by
  have hsame : ∀ site' : Site, site'.database = site.database →
      site'.database.tasks.lastId = last := fun site' hdatabase => hdatabase ▸ h
  have hwrote : ∀ {id : ℕ} {status : TaskStatus} (task : Task) (site' : Site),
      Wrote id status site.database.tasks site'.database.tasks →
        site'.database.tasks.lastId = last :=
    fun _ site' hwrote => hwrote.lastId_eq.trans h
  cases hasks with
  | look => exact h
  | read id =>
    rw [answer]
    cases around.file with
    | ok points => exact h
    | error e => exact h
  | wait id _ _ | go id _ _ =>
    exact (ends_onCourse _).mono (fun _ => hsame) hsame
  | giveUp id reason | putBack id reason | claim id reason | settle id hstatus reason =>
    exact ends_answer_update hwrote hsame

lemma lastId_serve (around : Surroundings) (options : ExecutorOptions) (site : Site) :
    ((QueueOp.serve around options).step site).database.tasks.lastId =
      site.database.tasks.lastId := by
  have hfollows : executorProtocol.Follows .fresh
      (runExecutorOnce none { options with execute := true }) := follows_runExecutorOnce rfl
  have hends : Ends ((runExecutorOnce none { options with execute := true }).run (answer around))
      site
      (fun _ site' => ∃ _ : Stage, site'.database.tasks.lastId = site.database.tasks.lastId)
      (fun site' => ∃ _ : Stage, site'.database.tasks.lastId = site.database.tasks.lastId) := by
    refine hfollows.ends (fun stage request site' h hasks => ?_) rfl
    exact (lastId_answer stage request site' h hasks).mono (fun _ _ h => h) (fun _ h _ => h)
  exact (hends.mono (fun _ _ ⟨_, h⟩ => h) (fun _ ⟨_, h⟩ => h)).final

end Serving

section Patching

variable {database : Database} {taskId : ℤ} {payload : Fields} {id : ℕ} {status : TaskStatus}

lemma wrote_of_patchWrites (now : UtcTime)
    (hwrites : patchWrites taskId payload = some (id, status)) {row : TaskRow}
    (hrow : database.tasks.find? id = some row) :
    Wrote id status database.tasks
      (final (patchTaskStatusEndpoint now taskId payload) database).tasks := by
  rw [patchWrites] at hwrites
  split at hwrites
  · rename_i raw reason hlookup hreason
    split_ifs at hwrites with hneg
    obtain ⟨found, hfound, hpair⟩ := Option.map_eq_some_iff.mp hwrites
    cases hpair
    have hfilled : Filled raw := by
      intro hblank
      have hnone : TaskStatus.ofValue? "" = none := by decide
      rw [hblank, hnone] at hfound
      cases hfound
    suffices h : Ends (patchTaskStatusEndpoint now taskId payload) database
        (fun _ after => Wrote taskId.toNat status database.tasks after.tasks)
        (fun after => Wrote taskId.toNat status database.tasks after.tasks) from h.final
    rw [patchTaskStatusEndpoint, hlookup]
    dsimp only
    rw [if_neg (not_not.mpr hfilled), hreason, ends_bind, ends_orRaise_ok, ends_bind,
      ends_mapError, patchTaskStatusEndpoint.update, if_neg (fun h => hneg h.1), updateTaskStatus,
      hfound]
    dsimp only
    rw [ends_bind, ends_get, hrow]
    have hwrote : Wrote taskId.toNat status database.tasks (database.tasks.update taskId.toNat
        (TaskRow.withStatus status reason now.timestamp)) :=
      ⟨row, reason, now.timestamp, hrow, rfl⟩
    exact ends_respond hwrote hwrote
  · cases hwrites

end Patching

section Runs

variable {site : Site} {op : QueueOp} {ops : List QueueOp}

lemma missing_append {ids : List ℕ} {id : ℕ} (h : id ∉ ids) : missing (ids ++ [id]) ids = [id] := by
  rw [missing, List.filter_append, List.filter_cons_of_pos (by simpa using h),
    List.filter_eq_nil_iff.mpr (by simp)]
  rfl

lemma missing_self (ids : List ℕ) : missing ids ids = [] :=
  List.filter_eq_nil_iff.mpr (by simp)

lemma missing_tail {ids : List ℕ} (h : ids.Nodup) : missing ids ids.tail = ids.take 1 := by
  cases ids with
  | nil => rfl
  | cons id ids =>
    obtain ⟨hid, -⟩ := List.nodup_cons.mp h
    rw [missing, List.tail_cons, List.filter_cons_of_pos (by simpa using hid),
      List.filter_eq_nil_iff.mpr (by simp)]
    rfl

structure Queues (site : Site) (op : QueueOp) (step : QueueStep ℕ) : Prop where
  queue : pendingIds (op.step site) = step.apply (pendingIds site)
  creates : op.creates site = step.entering
  takes : op.takes site = step.leaving (pendingIds site)
  withdraws : op.withdraws site = step.withdrawing (pendingIds site)
  served : op.isServe = false → step ≠ .leave
  fresh : ∀ id ∈ step.entering, site.database.tasks.lastId < id ∧
    id ≤ (op.step site).database.tasks.lastId
  lastId : site.database.tasks.lastId ≤ (op.step site).database.tasks.lastId

lemma queues_create (requested : String) (file : Except WmsError TaskPoints)
    (taskName : Option String) {now : UtcTime}
    (h : (QueueOp.create requested file taskName now).InTime site) :
    ∃ step, Queues site (.create requested file taskName now) step := by
  have hends : Ends (createTask requested file taskName now) site.database
      (fun _ database => idsOf database.tasks =
          idsOf site.database.tasks ++ [site.database.tasks.lastId + 1] ∧
        database.tasks.lastId = site.database.tasks.lastId + 1)
      (fun database => database = site.database) := by
    rw [createTask, ends_bind]
    cases resolveTargetPose requested file with
    | error e => exact rfl
    | ok found => exact ⟨idsOf_insert rfl h, rfl⟩
  have hnew : site.database.tasks.lastId + 1 ∉ pendingIds site := fun hmem =>
    absurd (le_lastId_of_mem hmem) (Nat.not_succ_le_self _)
  rcases hends.final_or with ⟨-, hcreated, hlast⟩ | hsame
  · refine ⟨.enter (site.database.tasks.lastId + 1), hcreated, ?_, rfl, rfl, by simp, ?_, ?_⟩
    · exact (congrArg (missing · _) hcreated).trans (missing_append hnew)
    · intro id hid
      rw [List.mem_singleton.mp hid]
      exact ⟨Nat.lt_succ_self _, hlast.ge⟩
    · exact (Nat.le_succ _).trans hlast.ge
  · have hqueue : pendingIds ((QueueOp.create requested file taskName now).step site) =
        pendingIds site := pendingIds_of_database hsame
    refine ⟨.stay, hqueue, (congrArg (missing · _) hqueue).trans (missing_self _), rfl, rfl,
      by simp, by simp [QueueStep.entering], ?_⟩
    exact (congrArg (fun database => database.tasks.lastId) hsame).ge

lemma queues_serve (around : Surroundings) (options : ExecutorOptions) :
    ∃ step, Queues site (.serve around options) step := by
  have hlast := (lastId_serve around options site).ge
  rcases pendingIds_serve around options site with hsame | htail
  · exact ⟨.stay, hsame, rfl, (congrArg (missing _) hsame).trans (missing_self _), rfl, by simp,
      by simp [QueueStep.entering], hlast⟩
  · refine ⟨.leave, htail, rfl, (congrArg (missing _) htail).trans ?_, rfl, ?_,
      by simp [QueueStep.entering], hlast⟩
    · exact missing_tail (nodup_idsOf site.database.tasks)
    · simp [QueueOp.isServe]

lemma queues_patch {now : UtcTime} {taskId : ℤ} {payload : Fields}
    (h : (QueueOp.patch now taskId payload).InTime site) :
    ∃ step, Queues site (.patch now taskId payload) step := by
  rcases patched_cases ⟨⟨site.database, []⟩, []⟩ now taskId payload with
    hsame | ⟨id, status, hwrites, hwrote⟩
  · have hnone : (QueueOp.patch now taskId payload).withdraws site = [] := by
      cases hwrites : patchWrites taskId payload with
      | none => simp [QueueOp.withdraws, hwrites]
      | some write =>
        have hgone : write.1 ∉ pendingIds site := by
          intro hmem
          obtain ⟨task, htask, hid⟩ := List.mem_map.mp hmem
          have hrow := AutoTable.find?_of_mem (mem_pendingTasks.mp htask).1
          rw [hid] at hrow
          have hids := (wrote_of_patchWrites now hwrites hrow).idsOf_of_ne (h write hwrites)
          have hkept : idsOf site.database.tasks =
              (idsOf site.database.tasks).filter (· ≠ write.1) :=
            (congrArg idsOf hsame).symm.trans hids
          rw [pendingIds, hkept] at hmem
          simpa using (List.mem_filter.mp hmem).2
        simp [QueueOp.withdraws, hwrites, hgone]
    exact ⟨.stay, congrArg idsOf hsame, rfl, rfl, hnone, by simp, by simp [QueueStep.entering],
      (congrArg AutoTable.lastId hsame).ge⟩
  · refine ⟨.withdraw id, hwrote.idsOf_of_ne (h _ hwrites), rfl, rfl, ?_, by simp,
      by simp [QueueStep.entering], hwrote.lastId_eq.ge⟩
    simp [QueueOp.withdraws, hwrites, QueueStep.withdrawing]

lemma queues_step (h : op.InTime site) : ∃ step, Queues site op step := by
  cases op with
  | create requested file taskName now => exact queues_create requested file taskName h
  | serve around options => exact queues_serve around options
  | patch now taskId payload => exact queues_patch h

lemma queues_run (h : Guarded QueueOp.step QueueOp.InTime site ops) : ∃ steps : List (QueueStep ℕ),
    pendingIds (runAll QueueOp.step site ops) =
        runAll QueueStep.apply (pendingIds site) steps ∧
      createdIds site ops = entered steps ∧ takenIds site ops = served (pendingIds site) steps ∧
      withdrawnIds site ops = withdrawn (pendingIds site) steps ∧
      (∀ id ∈ entered steps, site.database.tasks.lastId < id) ∧ (entered steps).Nodup ∧
      steps.count .leave ≤ ops.countP QueueOp.isServe := by
  induction ops generalizing site with
  | nil => exact ⟨[], rfl, rfl, rfl, rfl, by simp [entered], by simp [entered], by simp⟩
  | cons op ops ih =>
    obtain ⟨step, hstep⟩ := queues_step h.1
    obtain ⟨steps, hqueue, hcreated, htaken, hwithdrawn, hfresh, hnodup, hserved⟩ := ih h.2
    rw [hstep.queue] at hqueue htaken hwithdrawn
    refine ⟨step :: steps, hqueue, ?_, ?_, ?_, ?_, ?_, ?_⟩
    · rw [createdIds, hstep.creates, hcreated, entered_cons]
    · rw [takenIds, hstep.takes, htaken]
      rfl
    · rw [withdrawnIds, hstep.withdraws, hwithdrawn]
      rfl
    · intro id hid
      rw [entered_cons] at hid
      rcases List.mem_append.mp hid with hnow | hlater
      · exact (hstep.fresh id hnow).1
      · exact hstep.lastId.trans_lt (hfresh id hlater)
    · rw [entered_cons, List.nodup_append]
      refine ⟨?_, hnodup, fun id hid later hlater => ?_⟩
      · cases step <;> simp [QueueStep.entering]
      · exact ((hstep.fresh id hid).2.trans_lt (hfresh later hlater)).ne
    · rw [List.count_cons, List.countP_cons]
      have hone : (if step == .leave then 1 else 0) ≤ if op.isServe = true then 1 else 0 := by
        cases hserve : op.isServe with
        | true => split_ifs <;> simp_all
        | false => simp [hstep.served hserve]
      omega

end Runs

/-- Tasks are served in the order of their creation: whatever runs of executors, creations and
changes of status by clients follow one another, what the executors have taken and what is pending
then are the tasks that were pending and the created ones, in this order, but for those whose status
a client changed before an executor took them. Each run takes one task at most. -/
theorem tasks_served_in_order (start : Site) (ops : List QueueOp)
    (hops : Guarded QueueOp.step QueueOp.InTime start ops) :
    takenIds start ops ++ pendingIds (runAll QueueOp.step start ops) =
        (pendingIds start ++ createdIds start ops).filter (· ∉ withdrawnIds start ops) ∧
      (pendingIds start ++ createdIds start ops).Nodup ∧
      (takenIds start ops).length ≤ ops.countP QueueOp.isServe := by
  obtain ⟨steps, hqueue, hcreated, htaken, hwithdrawn, hfresh, hnodup, hserved⟩ := queues_run hops
  have hall : (pendingIds start ++ entered steps).Nodup := by
    refine List.nodup_append.mpr ⟨nodup_idsOf start.database.tasks, hnodup, ?_⟩
    exact fun id hid later hlater => ((le_lastId_of_mem hid).trans_lt (hfresh later hlater)).ne
  rw [hqueue, hcreated, htaken, hwithdrawn]
  exact ⟨served_append_queue hall, hall, (length_served_le _ _).trans hserved⟩

def stationCalls : List QueueOp :=
  [.create "station_a" (.ok (stationPoints (.integer 1))) none ⟨2026, 5, 13, 9, 0, 1⟩,
    .serve (willingSurroundings (.integer 1)) {},
    .patch ⟨2026, 5, 13, 9, 0, 2⟩ 2 [("status", .string "canceled")],
    .create "station_a" (.ok (stationPoints (.integer 1))) none ⟨2026, 5, 13, 9, 0, 2⟩,
    .serve (willingSurroundings (.integer 1)) {}]

theorem tasks_served_in_order_station :
    takenIds ⟨⟨stationTable, []⟩, 0, {}⟩ stationCalls ++
        pendingIds (runAll QueueOp.step ⟨⟨stationTable, []⟩, 0, {}⟩ stationCalls) =
      (pendingIds ⟨⟨stationTable, []⟩, 0, {}⟩ ++
          createdIds ⟨⟨stationTable, []⟩, 0, {}⟩ stationCalls).filter
        (· ∉ withdrawnIds ⟨⟨stationTable, []⟩, 0, {}⟩ stationCalls) :=
  (tasks_served_in_order ⟨⟨stationTable, []⟩, 0, {}⟩ stationCalls (by decide +kernel)).1

/-- The second task has been canceled before its turn. -/
example : takenIds ⟨⟨stationTable, []⟩, 0, {}⟩ stationCalls = [1, 3] := by decide +kernel

end Wms
