import AmrWarehouse.Wms.Interleaving
import AmrWarehouse.Wms.PendingTasks

/-! A canceled task stays as it is, as long as no executor is working on it when it is canceled. -/

namespace Wms

open Library

def Canceled (w : World) (task : ℕ) : Prop := ∃ row ∈ w.tasks.find? task, row.status = .canceled

def World.working (w : World) (i : ℕ) : Option ℕ :=
  if (w.request i).isSome then (w.stage i).bind Stage.task else none

def OnlyCancels (w : World) : Act → Prop
  | .turn _ _ => True
  | .patch _ taskId payload => ∀ write ∈ patchWrites taskId payload, write.2 = .canceled ∧
      ∃ row ∈ w.tasks.find? write.1, row.status = .pending ∨ row.status = .running

/-- No task is canceled while an executor is working on it. -/
def Considerate (w : World) : Act → Prop
  | .turn _ _ => True
  | .patch _ taskId payload => ∀ write ∈ patchWrites taskId payload,
      ∀ i < w.crowd.parties.length, w.working i ≠ some write.1

/-- No executor changes a task that has been canceled, and one that had not claimed the task by
then sends no goal for it. -/
def Respected (start : World) (past later : List Act) : Prop :=
  ∀ task, Canceled (runAll act start past) task →
    (∀ i outside, (act (runAll act start (past ++ later)) (.turn i outside)).tasks.find? task =
      (runAll act start (past ++ later)).tasks.find? task) ∧
    ∀ i, .claim i task ∉ (runAll act start past).trace →
      .goal i task ∉ (runAll act start (past ++ later)).trace

structure Respectful (w : World) : Prop where
  follows : w.crowd.Follows executorProtocol
  alive : ∀ i task, w.working i = some task → ¬ Canceled w task
  claimed : ∀ i task, w.stage i = some (.claimed task) → .claim i task ∈ w.trace
  sent : ∀ i task, .goal i task ∈ w.trace → .claim i task ∈ w.trace

instance (w : World) (task : ℕ) : Decidable (Canceled w task) :=
  inferInstanceAs (Decidable (∃ _ ∈ _, _))

instance (w : World) : (a : Act) → Decidable (OnlyCancels w a)
  | .turn _ _ => inferInstanceAs (Decidable True)
  | .patch _ taskId payload => inferInstanceAs (Decidable (∀ _ ∈ patchWrites taskId payload, _))

instance (w : World) : (a : Act) → Decidable (Considerate w a)
  | .turn _ _ => inferInstanceAs (Decidable True)
  | .patch _ taskId payload => inferInstanceAs (Decidable (∀ _ ∈ patchWrites taskId payload, _))

variable {w w' : World} {i task id : ℕ} {status : TaskStatus} {outside : Outside}

lemma working_of_stage {stage : Stage} (hrequest : w.request i ≠ none)
    (hstage : w.stage i = some stage) : w.working i = stage.task := by
  rw [World.working, if_pos (Option.isSome_iff_ne_none.mpr hrequest), hstage]
  rfl

lemma stage_of_working (h : w.working i = some task) :
    ∃ stage, w.stage i = some stage ∧ stage.task = some task ∧ w.request i ≠ none := by
  rw [World.working] at h
  split_ifs at h with hrequest
  obtain ⟨stage, hstage, htask⟩ := Option.bind_eq_some_iff.mp h
  exact ⟨stage, hstage, htask, Option.isSome_iff_ne_none.mp hrequest⟩

lemma Wrote.not_canceled_other (h : Wrote id status w.tasks w'.tasks) (htask : task ≠ id) :
    Canceled w' task ↔ Canceled w task := by
  rw [Canceled, Canceled, h.find?_other htask]

lemma Wrote.canceled_self (h : Wrote id status w.tasks w'.tasks) :
    Canceled w' id ↔ status = .canceled := by
  obtain ⟨row, hrow, rfl⟩ := h.find?_self
  rw [Canceled, hrow]
  simp

lemma Respectful.not_canceled (h : Respectful w) {stage : Stage} (hrequest : w.request i ≠ none)
    (hstage : w.stage i = some stage) (htask : stage.task = some task) : ¬ Canceled w task :=
  h.alive i task ((working_of_stage hrequest hstage).trans htask)

lemma Wrote.find?_canceled (h : Wrote id status w.tasks w'.tasks) (hid : ¬ Canceled w id)
    (hcanceled : Canceled w task) : w'.tasks.find? task = w.tasks.find? task := by
  refine h.find?_other fun htask => ?_
  exact hid (htask ▸ hcanceled)

section Turns

variable (h : Respectful w) (hturned : Turned w i w')

include h hturned

lemma Respectful.turned_row (hcanceled : Canceled w task) :
    w'.tasks.find? task = w.tasks.find? task := by
  obtain ⟨stage, events, hmoved, -, -⟩ := hturned.moved
  generalize htasks : w'.tasks = tasks at hmoved
  cases hmoved with
  | look | keep | stop | unclaimed | go => rfl
  | claim hstage _ hwrote =>
    subst htasks
    exact hwrote.find?_canceled (h.not_canceled hturned.busy hstage rfl) hcanceled
  | write hstage htask _ _ hwrote =>
    subst htasks
    exact hwrote.find?_canceled (h.not_canceled hturned.busy hstage htask) hcanceled

lemma Respectful.turned_claims (hcanceled : Canceled w task) (j : ℕ)
    (hclaim : .claim j task ∉ w.trace) : .claim j task ∉ w'.trace := by
  obtain ⟨stage, events, hmoved, -, htrace⟩ := hturned.moved
  generalize w'.tasks = tasks at hmoved htrace
  rw [htrace, List.mem_append, List.mem_append]
  rintro ((hback | hnew) | hold)
  · obtain ⟨_, _, _, heq, -⟩ := mem_putBacks.mp hback
    cases heq
  · cases hmoved with
    | look | keep | stop | go | write => simp at hnew
    | unclaimed hstage | claim hstage =>
      cases List.mem_singleton.mp hnew
      exact h.not_canceled hturned.busy hstage rfl hcanceled
  · exact hclaim hold

omit h in
lemma Turned.canceled_before (hcanceled : Canceled w' task) : Canceled w task := by
  obtain ⟨stage, events, hmoved, -, -⟩ := hturned.moved
  have hwritten : ∀ id status, status ≠ .canceled → Wrote id status w.tasks w'.tasks →
      Canceled w task := by
    intro id status hstatus hwrote
    by_cases htask : task = id
    · subst htask
      exact (hstatus (hwrote.canceled_self.mp hcanceled)).elim
    · exact (hwrote.not_canceled_other htask).mp hcanceled
  generalize htasks : w'.tasks = tasks at hmoved
  rw [Canceled, htasks] at hcanceled
  cases hmoved with
  | look | keep | stop | unclaimed | go => exact hcanceled
  | claim _ _ hwrote => exact hwritten _ _ (by decide) (htasks ▸ hwrote)
  | write _ _ _ hstatus hwrote => exact hwritten _ _ hstatus.2 (htasks ▸ hwrote)

omit h in
lemma Turned.working_before {j : ℕ} (hj : w'.working j = some task) :
    w.working j = some task ∨ ∃ row, w.tasks.find? task = some row ∧ row.status = .pending := by
  obtain ⟨stage, hstage', htask, hrequest⟩ := stage_of_working hj
  by_cases hji : j = i
  · subst hji
    obtain ⟨stage, events, hmoved, hstage, -⟩ := hturned.moved
    rw [hstage', Option.some.injEq] at hstage
    subst hstage
    generalize w'.tasks = tasks at hmoved
    cases hmoved with
    | look _ hnext =>
      cases htask
      exact Or.inr ⟨_, getNextPendingTask_find hnext⟩
    | keep hselected | claim hselected =>
      cases htask
      exact Or.inl (working_of_stage hturned.busy hselected)
    | go hclaimed hafter =>
      rcases hafter with rfl | rfl
      · cases htask
        exact Or.inl (working_of_stage hturned.busy hclaimed)
      · cases htask
    | stop | unclaimed | write => cases htask
  · left
    rw [World.working, (hturned.others j hji).1, (hturned.others j hji).2] at hj
    exact hj

lemma Respectful.turned (hfollows : w'.crowd.Follows executorProtocol) : Respectful w' := by
  refine ⟨hfollows, ?_, ?_, ?_⟩
  · intro j task hj hcanceled
    have hbefore := hturned.canceled_before hcanceled
    rcases hturned.working_before hj with hworking | ⟨row, hrow, hpending⟩
    · exact h.alive j task hworking hbefore
    · obtain ⟨row', hrow', hstatus⟩ := hbefore
      rw [hrow, Option.mem_some] at hrow'
      rw [hrow', hstatus] at hpending
      cases hpending
  · intro j task hj
    obtain ⟨stage, events, hmoved, hstage, htrace⟩ := hturned.moved
    generalize w'.tasks = tasks at hmoved htrace
    rw [htrace, List.append_assoc]
    by_cases hji : j = i
    · subst hji
      rw [hj, Option.some.injEq] at hstage
      subst hstage
      cases hmoved with
      | claim => simp
      | go _ hafter => rcases hafter with h | h <;> cases h
    · rw [(hturned.others j hji).1] at hj
      simp [h.claimed j task hj]
  · intro j task hj
    obtain ⟨stage, events, hmoved, -, htrace⟩ := hturned.moved
    generalize w'.tasks = tasks at hmoved htrace
    have hclaim : .claim j task ∈ w.trace := by
      rw [htrace, List.mem_append, List.mem_append] at hj
      rcases hj with (hback | hnew) | hold
      · obtain ⟨_, _, _, heq, -⟩ := mem_putBacks.mp hback
        cases heq
      · cases hmoved with
        | look | keep | stop | unclaimed | claim | write => simp at hnew
        | go hclaimed =>
          cases List.mem_singleton.mp hnew
          exact h.claimed _ _ hclaimed
      · exact h.sent j task hold
    rw [htrace]
    exact List.mem_append_right _ hclaim

end Turns

section Patches

variable {now : UtcTime} {taskId : ℤ} {payload : Fields}

lemma mem_trace_patch {event : Event} (hevent : ∀ task, event ≠ .putBack task) :
    event ∈ (act w (.patch now taskId payload)).trace ↔ event ∈ w.trace := by
  rw [act, List.mem_append, or_iff_right]
  intro hback
  obtain ⟨task, _, _, heq, -⟩ := mem_putBacks.mp hback
  exact hevent task heq

lemma canceled_patch (hconsiderate : Considerate w (.patch now taskId payload))
    (hcanceled : Canceled (act w (.patch now taskId payload)) task) :
    Canceled w task ∨ ∀ i, w.working i ≠ some task := by
  rcases patched_cases w now taskId payload with hsame | ⟨id, status, hwrites, hwrote⟩
  · left
    rwa [Canceled, act, World.tasks, hsame] at hcanceled
  · by_cases htask : task = id
    · right
      subst htask
      intro i hi
      obtain ⟨stage, hstage, -⟩ := stage_of_working hi
      obtain ⟨party, hparty, -⟩ := Option.map_eq_some_iff.mp hstage
      exact hconsiderate _ hwrites i (List.getElem?_eq_some_iff.mp hparty).1 hi
    · left
      have hother : Canceled (act w (.patch now taskId payload)) task ↔ Canceled w task :=
        hwrote.not_canceled_other htask
      exact hother.mp hcanceled

lemma Canceled.patch (honly : OnlyCancels w (.patch now taskId payload))
    (hcanceled : Canceled w task) : Canceled (act w (.patch now taskId payload)) task := by
  rcases patched_cases w now taskId payload with hsame | ⟨id, status, hwrites, hwrote⟩
  · rwa [Canceled, act, World.tasks, hsame]
  · have hwrote' : Wrote id status w.tasks (act w (.patch now taskId payload)).tasks := hwrote
    by_cases htask : task = id
    · subst htask
      exact hwrote'.canceled_self.mpr (honly _ hwrites).1
    · exact (hwrote'.not_canceled_other htask).mpr hcanceled

end Patches

lemma respectful_act (h : Respectful w) (a : Act) (hconsiderate : Considerate w a) :
    Respectful (act w a) := by
  have hfollows := follows_act h.follows a
  cases a with
  | turn i outside =>
    rcases act_turn h.follows i outside with hsame | hturned
    · rw [hsame]
      exact h
    · exact h.turned hturned hfollows
  | patch now taskId payload =>
    refine ⟨hfollows, ?_, ?_, ?_⟩
    · intro i task hi hcanceled
      rcases canceled_patch hconsiderate hcanceled with hbefore | hnobody
      · exact h.alive i task hi hbefore
      · exact hnobody i hi
    · intro i task hi
      exact (mem_trace_patch (by simp)).mpr (h.claimed i task hi)
    · intro i task hi
      exact (mem_trace_patch (by simp)).mpr (h.sent i task ((mem_trace_patch (by simp)).mp hi))

lemma respectful_opening (database : Database) (executors : List ExecutorOptions) :
    Respectful (opening database executors) := by
  have hfresh : ∀ i stage, (opening database executors).stage i = some stage → stage = .fresh := by
    intro i stage hstage
    obtain ⟨party, hparty, rfl⟩ := Option.map_eq_some_iff.mp hstage
    obtain ⟨options, -, rfl⟩ := List.mem_map.mp (List.mem_of_getElem? hparty)
    rfl
  refine ⟨follows_opening database executors, ?_, ?_, ?_⟩
  · intro i task hi
    obtain ⟨stage, hstage, htask, -⟩ := stage_of_working hi
    rw [hfresh i stage hstage] at htask
    cases htask
  · intro i task hi
    cases hfresh i _ hi
  · intro i task hi
    cases hi

/-- From where a task is canceled on, it stays so, and is not claimed any more. -/
structure Spared (task : ℕ) (unclaimed : ℕ → Prop) (w : World) : Prop where
  respectful : Respectful w
  canceled : Canceled w task
  unclaimed : ∀ i, unclaimed i → .claim i task ∉ w.trace

lemma spared_act {unclaimed : ℕ → Prop} (h : Spared task unclaimed w) (a : Act)
    (ha : OnlyCancels w a ∧ Considerate w a) : Spared task unclaimed (act w a) := by
  refine ⟨respectful_act h.respectful a ha.2, ?_, ?_⟩
  · cases a with
    | turn i outside =>
      rcases act_turn h.respectful.follows i outside with hsame | hturned
      · rw [hsame]
        exact h.canceled
      · rw [Canceled, h.respectful.turned_row hturned h.canceled]
        exact h.canceled
    | patch now taskId payload => exact h.canceled.patch ha.1
  · intro j hj
    cases a with
    | turn i outside =>
      rcases act_turn h.respectful.follows i outside with hsame | hturned
      · rw [hsame]
        exact h.unclaimed j hj
      · exact h.respectful.turned_claims hturned h.canceled j (h.unclaimed j hj)
    | patch now taskId payload =>
      exact fun hclaim => h.unclaimed j hj ((mem_trace_patch (by simp)).mp hclaim)

/-- However the reads and writes of executors interleave with cancellations of pending and running
tasks, none of which hits a task that is being worked on, the cancellations are respected. -/
theorem cancellation_is_respected (database : Database) (executors : List ExecutorOptions)
    (past later : List Act)
    (honly : Guarded act OnlyCancels (opening database executors) (past ++ later))
    (hconsiderate : Guarded act Considerate (opening database executors) (past ++ later)) :
    Respected (opening database executors) past later := by
  obtain ⟨hpast, hlater⟩ := guarded_append.mp (honly.and hconsiderate)
  have hrespectful := hpast.invariant Respectful (fun _ a h ha => respectful_act h a ha.2)
    (respectful_opening database executors)
  intro task hcanceled
  let unclaimed := fun i => .claim i task ∉ (runAll act (opening database executors) past).trace
  have hspared :
      Spared task unclaimed (runAll act (opening database executors) (past ++ later)) := by
    rw [runAll_append]
    exact hlater.invariant (Spared task unclaimed) (fun _ a h ha => spared_act h a ha)
      ⟨hrespectful, hcanceled, fun _ hi => hi⟩
  constructor
  · intro i outside
    rcases act_turn hspared.respectful.follows i outside with hsame | hturned
    · rw [hsame]
    · exact hspared.respectful.turned_row hturned hspared.canceled
  · exact fun i hi hgoal => hspared.unclaimed i hi (hspared.respectful.sent i task hgoal)

def cancelTask (id : ℤ) : Act :=
  .patch ⟨2026, 5, 13, 9, 1, 0⟩ id [("status", .string " canceled "), ("status_reason", .null)]

theorem cancellation_is_respected_station :
    Respected (opening ⟨stationTable.insert stationRow, []⟩ [{}])
      [.turn 0 (amid true), cancelTask 2] ([0, 0, 0, 0, 0].map fun i => .turn i (amid true)) :=
  cancellation_is_respected ⟨stationTable.insert stationRow, []⟩ [{}]
    [.turn 0 (amid true), cancelTask 2] _ (by decide +kernel) (by decide +kernel)

theorem canceled_task_has_its_goal_sent :
    ¬ ∀ (database : Database) (options : ExecutorOptions) (past later : List Act),
      Guarded act OnlyCancels (opening database [options]) (past ++ later) →
        Respected (opening database [options]) past later := by
  intro h
  have hrespected := h ⟨stationTable, []⟩ {}
    ([0, 0, 0].map (fun i => .turn i (amid true)) ++ [cancelTask 1])
    ([0, 0].map fun i => .turn i (amid true)) (by decide +kernel)
  obtain ⟨-, hgoals⟩ := hrespected 1 (by decide +kernel)
  exact hgoals 0 (by decide +kernel) (by decide +kernel)

end Wms
