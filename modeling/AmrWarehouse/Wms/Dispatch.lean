import AmrWarehouse.Library.Epochs
import AmrWarehouse.Wms.Interleaving

/-! At most one executor sends a goal for a task, as long as statuses are written to tasks that are
still as they were selected. -/

namespace Wms

open Library

/-- Between two times a task is put back, at most one executor sends a goal for it. -/
def AtMostOnce (trace : List Event) : Prop :=
  ∀ task, OnceBetween (.putBack task) (fun executor => .goal executor task) trace

def Undispatched (w : World) (task : ℕ) : Prop :=
  ∀ party ∈ w.crowd.parties, party.1 ≠ .claimed task

instance (w : World) (task : ℕ) : Decidable (Undispatched w task) :=
  inferInstanceAs (Decidable (∀ _ ∈ _, _))

/-- A task is claimed while it is pending, and put back while no claim on it awaits its goal. -/
def Careful (w : World) : Act → Prop
  | .turn i _ => ∀ write ∈ w.writes i,
      (write.2 = .running → ∃ row ∈ w.tasks.find? write.1, row.status = .pending) ∧
      (write.2 = .pending → Undispatched w write.1)
  | .patch _ taskId payload => ∀ write ∈ patchWrites taskId payload,
      write.2 = .pending → Undispatched w write.1

instance (w : World) : (a : Act) → Decidable (Careful w a)
  | .turn i _ => inferInstanceAs (Decidable (∀ _ ∈ w.writes i, _))
  | .patch _ taskId payload => inferInstanceAs (Decidable (∀ _ ∈ patchWrites taskId payload, _))

def Busy (w : World) (task i : ℕ) : Prop :=
  w.stage i = some (.claimed task) ∨ Since (.putBack task) (.goal i task) w.trace

structure Exclusive (w : World) : Prop where
  follows : w.crowd.Follows executorProtocol
  single : ∀ task i j, Busy w task i → Busy w task j → i = j
  idle : ∀ task row, w.tasks.find? task = some row → row.status = .pending → ∀ i, ¬ Busy w task i
  once : AtMostOnce w.trace

variable {w w' : World} {i task id : ℕ} {status : TaskStatus} {outside : Outside}

lemma goal_not_mem_putBacks {before after : TaskTable} (j task : ℕ) :
    Event.goal j task ∉ putBacks before after := by
  intro h
  obtain ⟨_, _, _, heq, -⟩ := mem_putBacks.mp h
  cases heq

lemma since_putBacks {before after : TaskTable} {trace : List Event} {task j : ℕ} :
    Since (.putBack task) (.goal j task) (putBacks before after ++ trace) ↔
      .putBack task ∉ putBacks before after ∧ Since (.putBack task) (.goal j task) trace := by
  rw [since_append]
  have hnone : ¬ Since (.putBack task) (.goal j task) (putBacks before after) :=
    fun h => goal_not_mem_putBacks j task (mem_of_since h)
  tauto

lemma Undispatched.stage_ne (h : Undispatched w task) (i : ℕ) :
    w.stage i ≠ some (.claimed task) := by
  intro hstage
  obtain ⟨party, hparty, hclaimed⟩ := Option.map_eq_some_iff.mp hstage
  exact h party (List.mem_of_getElem? hparty) hclaimed

section Steps

variable (h : Exclusive w) (hfollows : w'.crowd.Follows executorProtocol)
  (hstage : ∀ i task, w'.stage i = some (.claimed task) → w.stage i = some (.claimed task))

include h hfollows

lemma Exclusive.of_busy (hbusy : ∀ task i, Busy w' task i → Busy w task i)
    (hidle : ∀ task row, w'.tasks.find? task = some row → row.status = .pending →
      ∀ i, ¬ Busy w' task i) (honce : AtMostOnce w'.trace) : Exclusive w' where
  follows := hfollows
  single task i j hi hj := h.single task i j (hbusy task i hi) (hbusy task j hj)
  idle := hidle
  once := honce

include hstage

lemma Exclusive.quiet (events : List Event) (htasks : w'.tasks = w.tasks)
    (htrace : w'.trace = events ++ w.trace) (hevents : ∀ i task, .goal i task ∉ events) :
    Exclusive w' := by
  have hbusy : ∀ task i, Busy w' task i → Busy w task i := by
    rintro task i (hclaimed | hsent)
    · exact Or.inl (hstage i task hclaimed)
    · rw [htrace, since_append] at hsent
      rcases hsent with hnew | ⟨-, hold⟩
      · exact (hevents i task (mem_of_since hnew)).elim
      · exact Or.inr hold
  refine h.of_busy hfollows hbusy ?_ ?_
  · intro task row hrow hpending i hi
    exact h.idle task row (htasks ▸ hrow) hpending i (hbusy task i hi)
  · intro task
    rw [htrace]
    exact (h.once task).append fun i => hevents i task

lemma Exclusive.wrote (hwrote : Wrote id status w.tasks w'.tasks)
    (htrace : w'.trace = putBacks w.tasks w'.tasks ++ w.trace)
    (hundispatched : status = .pending → Undispatched w id) : Exclusive w' := by
  have hsince : ∀ task i, Since (.putBack task) (.goal i task) w'.trace →
      .putBack task ∉ putBacks w.tasks w'.tasks ∧
        Since (.putBack task) (.goal i task) w.trace := by
    intro task i hsent
    rwa [htrace, since_putBacks] at hsent
  refine h.of_busy hfollows ?_ ?_ ?_
  · exact fun task i => Or.imp (hstage i task) fun hsent => (hsince task i hsent).2
  · rintro task row hrow hpending i hi
    by_cases htask : task = id
    · subst htask
      obtain ⟨row', hrow', hstatus⟩ := hwrote.find?_self
      rw [hrow, Option.some.injEq] at hrow'
      subst hrow'
      rcases hi with hclaimed | hsent
      · exact (hundispatched (hstatus ▸ hpending)).stage_ne i (hstage i task hclaimed)
      · obtain ⟨hcut, hold⟩ := hsince task i hsent
        obtain ⟨before, _, _, hbefore, -⟩ := hwrote
        by_cases hwas : before.status = .pending
        · exact h.idle task before hbefore hwas i (Or.inr hold)
        · exact hcut (mem_putBacks.mpr ⟨task, before, row, rfl, hbefore, hwas, hrow, hpending⟩)
    · rw [hwrote.find?_other htask] at hrow
      refine h.idle task row hrow hpending i ?_
      exact hi.imp (hstage i task) fun hsent => (hsince task i hsent).2
  · intro task
    rw [htrace]
    exact (h.once task).append fun i => goal_not_mem_putBacks i task

lemma Exclusive.sent (hclaimed : w.stage i = some (.claimed id)) (htasks : w'.tasks = w.tasks)
    (htrace : w'.trace = .goal i id :: w.trace) : Exclusive w' := by
  have hbusy : ∀ task j, Busy w' task j → Busy w task j := by
    rintro task j (hj | hj)
    · exact Or.inl (hstage j task hj)
    · rw [htrace, since_cons] at hj
      rcases hj with hnew | ⟨-, hold⟩
      · cases hnew
        exact Or.inl hclaimed
      · exact Or.inr hold
  refine h.of_busy hfollows hbusy ?_ ?_
  · intro task row hrow hpending j hj
    exact h.idle task row (htasks ▸ hrow) hpending j (hbusy task j hj)
  · intro task
    rw [htrace]
    refine (h.once task).cons fun j k hj hk => ?_
    rw [← htrace] at hj hk
    exact h.single task j k (hbusy task j (Or.inr hj)) (hbusy task k (Or.inr hk))

end Steps

lemma Exclusive.claimed (i : ℕ) (h : Exclusive w) (hfollows : w'.crowd.Follows executorProtocol)
    (hstage : ∀ j task, w'.stage j = some (.claimed task) →
      w.stage j = some (.claimed task) ∨ (j = i ∧ task = id))
    (hwrote : Wrote id .running w.tasks w'.tasks)
    (hfree : ∃ row ∈ w.tasks.find? id, row.status = .pending)
    (htrace : w'.trace = putBacks w.tasks w'.tasks ++ .claim i id :: w.trace) : Exclusive w' := by
  have hbusy : ∀ task j, Busy w' task j → Busy w task j ∨ (j = i ∧ task = id) := by
    rintro task j (hj | hj)
    · exact (hstage j task hj).imp Or.inl fun hnew => hnew
    · rw [htrace, since_putBacks, since_cons] at hj
      rcases hj with ⟨-, hnew | ⟨-, hold⟩⟩
      · cases hnew
      · exact Or.inl (Or.inr hold)
  obtain ⟨before, hbefore, hwas⟩ := hfree
  have hnone := h.idle id before hbefore hwas
  refine ⟨hfollows, ?_, ?_, ?_⟩
  · intro task j k hj hk
    rcases hbusy task j hj with hj | ⟨rfl, rfl⟩
    · rcases hbusy task k hk with hk | ⟨rfl, rfl⟩
      · exact h.single task j k hj hk
      · exact (hnone j hj).elim
    · rcases hbusy task k hk with hk | ⟨rfl, -⟩
      · exact (hnone k hk).elim
      · rfl
  · intro task row hrow hpending j hj
    by_cases htask : task = id
    · subst htask
      obtain ⟨row', hrow', hstatus⟩ := hwrote.find?_self
      rw [hrow, Option.some.injEq] at hrow'
      rw [hrow', hstatus] at hpending
      cases hpending
    · rw [hwrote.find?_other htask] at hrow
      rcases hbusy task j hj with hj | ⟨-, rfl⟩
      · exact h.idle task row hrow hpending j hj
      · exact htask rfl
  · intro task
    rw [htrace, List.append_cons]
    refine (h.once task).append fun j hj => ?_
    rcases List.mem_append.mp hj with hj | hj
    · exact goal_not_mem_putBacks j task hj
    · simp at hj

lemma Turned.claimed_before {stage : Stage} (h : Turned w i w') (hstage : w'.stage i = some stage)
    (hunclaimed : ∀ task, stage ≠ .claimed task) (j task : ℕ)
    (hj : w'.stage j = some (.claimed task)) : w.stage j = some (.claimed task) := by
  by_cases hji : j = i
  · subst hji
    rw [hstage, Option.some.injEq] at hj
    exact (hunclaimed task hj).elim
  · rwa [(h.others j hji).1] at hj

lemma exclusive_turned (h : Exclusive w) (hfollows : w'.crowd.Follows executorProtocol)
    (hturned : Turned w i w')
    (hcareful : Careful w (.turn i outside)) : Exclusive w' := by
  obtain ⟨stage, events, hmoved, hstage, htrace⟩ := hturned.moved
  have hbefore := hturned.claimed_before hstage
  generalize htasks : w'.tasks = tasks at hmoved
  cases hmoved with
  | look | keep | stop =>
    refine h.quiet hfollows (hbefore (by simp)) [] htasks ?_ (by simp)
    rw [htrace, htasks, putBacks_self, List.append_nil]
  | @unclaimed id _ =>
    refine h.quiet hfollows (hbefore (by simp)) [.claim i id] htasks ?_ ?_
    · rw [htrace, htasks, putBacks_self, List.nil_append]
    · simp
  | claim _ hwrites hwrote =>
    subst htasks
    refine Exclusive.claimed i h hfollows ?_ hwrote ((hcareful _ hwrites).1 rfl) ?_
    · intro j task hj
      by_cases hji : j = i
      · subst hji
        rw [hstage, Option.some.injEq] at hj
        cases hj
        exact Or.inr ⟨rfl, rfl⟩
      · rw [(hturned.others j hji).1] at hj
        exact Or.inl hj
    · rw [htrace, List.append_assoc, List.singleton_append]
  | go hclaimed hafter =>
    refine h.sent hfollows (hbefore ?_) hclaimed htasks ?_
    · rcases hafter with rfl | rfl <;> simp
    · rw [htrace, htasks, putBacks_self]
      rfl
  | write _ _ hwrites _ hwrote =>
    subst htasks
    refine h.wrote hfollows (hbefore (by simp)) hwrote ?_ (hcareful _ hwrites).2
    rw [htrace, List.append_nil]

theorem exclusive_act (h : Exclusive w) (a : Act) (hcareful : Careful w a) :
    Exclusive (act w a) := by
  have hfollows := follows_act h.follows a
  cases a with
  | turn i outside =>
    rcases act_turn h.follows i outside with hsame | hturned
    · rw [hsame]
      exact h
    · exact exclusive_turned h hfollows hturned hcareful
  | patch now taskId payload =>
    have hstage : ∀ i task, (act w (.patch now taskId payload)).stage i = some (.claimed task) →
        w.stage i = some (.claimed task) := fun _ _ hclaimed => hclaimed
    rcases patched_cases w now taskId payload with hsame | ⟨id, status, hwrites, hwrote⟩
    · refine h.quiet hfollows hstage [] hsame ?_ (by simp)
      rw [act, hsame, putBacks_self]
    · refine h.wrote hfollows hstage hwrote rfl fun hpending => ?_
      exact hcareful _ hwrites hpending

lemma exclusive_opening (database : Database) (executors : List ExecutorOptions) :
    Exclusive (opening database executors) := by
  have hidle : ∀ task i, ¬ Busy (opening database executors) task i := by
    rintro task i (hclaimed | hsent)
    · simp [World.stage, opening] at hclaimed
    · exact hsent
  exact ⟨follows_opening database executors, fun task i j hi => (hidle task i hi).elim,
    fun task row _ _ => hidle task, fun task => onceBetween_nil⟩

/-- However the reads and writes of any number of executors and API clients interleave, a task that
is claimed and put back with care has its goal sent by one executor at a time. -/
theorem dispatched_at_most_once (database : Database) (executors : List ExecutorOptions)
    (acts : List Act) (hacts : Guarded act Careful (opening database executors) acts) :
    Always act (fun w => AtMostOnce w.trace) (opening database executors) acts :=
  (hacts.always Exclusive (fun _ a h => exclusive_act h a)
    (exclusive_opening database executors)).mono fun _ h => h.once

theorem dispatched_at_most_once_station :
    Always act (fun w => AtMostOnce w.trace) (stationWorld 2)
      ([0, 1, 0, 0, 0, 0, 0].map (fun i => .turn i (amid true)) ++
        .patch ⟨2026, 5, 13, 9, 1, 0⟩ 1 [("status", .string "pending")] ::
        [1, 1, 1, 1].map fun i => .turn i (amid true)) :=
  dispatched_at_most_once ⟨stationTable, []⟩ (List.replicate 2 {}) _ (by decide +kernel)

/-- Two executors that select the task before one of them claims it both send its goal. -/
theorem one_task_is_dispatched_twice :
    ¬ ∀ (database : Database) (executors : List ExecutorOptions) (turns : List (ℕ × Outside)),
      AtMostOnce (runAll act (opening database executors)
        (turns.map fun turn => .turn turn.1 turn.2)).trace := by
  intro h
  have honce := h ⟨stationTable, []⟩ (List.replicate 2 {})
    ([0, 1, 0, 1, 0, 1, 0, 1, 0, 1].map fun i => (i, amid true))
  have htrace : (runAll act (stationWorld 2)
      (([0, 1, 0, 1, 0, 1, 0, 1, 0, 1].map fun i => (i, amid true)).map fun turn =>
        .turn turn.1 turn.2)).trace = [.goal 1 1, .goal 0 1, .claim 1 1, .claim 0 1] := by
    decide +kernel
  rw [stationWorld] at htrace
  rw [htrace] at honce
  have hsame := honce 1 _ List.infix_rfl (by simp) 0 1 (by simp) (by simp)
  simp at hsame

/-- Nor is it enough that every claim finds the task pending. -/
example : (runAll act (stationWorld 3)
    ([(0, true), (1, true), (0, true), (1, true), (0, true), (1, false), (0, true), (1, true),
      (2, true), (2, true), (2, true), (2, true), (2, true), (0, true)].map fun turn =>
        .turn turn.1 (amid turn.2))).trace =
    [.goal 0 1, .goal 2 1, .claim 2 1, .putBack 1, .claim 0 1] := by
  decide +kernel

end Wms
