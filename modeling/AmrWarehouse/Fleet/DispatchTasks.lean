import AmrWarehouse.Fleet.AssignTask

/-! A batch of tasks: what the loop over them does, turn by turn. -/

namespace Fleet

open Library

namespace FleetDispatcher

inductive Turns (env : Environment) (now : Datetime) (timeout : Floating)
    (penalties : Dict String ℚ) :
    FleetDispatcher → List DispatchTask → List AssignmentRecord → FleetDispatcher → Prop
  | done (dispatcher : FleetDispatcher) :
    Turns env now timeout penalties dispatcher [] [] dispatcher
  | skipped {dispatcher after : FleetDispatcher} {task : DispatchTask} {tasks : List DispatchTask}
      {results : List AssignmentRecord} :
      ¬ dispatcher.board.Free task.taskId →
      Turns env now timeout penalties dispatcher tasks results after →
      Turns env now timeout penalties dispatcher (task :: tasks) results after
  | assigned {dispatcher mid after : FleetDispatcher} {task : DispatchTask}
      {tasks : List DispatchTask} {results : List AssignmentRecord}
      {decision : DispatchDecision} {robot : RobotRecord} {assignment : AssignmentRecord} :
      Chosen env dispatcher task now timeout penalties decision robot →
      Assigned env dispatcher task now decision robot assignment mid →
      Turns env now timeout penalties mid tasks results after →
      Turns env now timeout penalties dispatcher (task :: tasks) (assignment :: results) after
  | stopped {dispatcher : FleetDispatcher} {task : DispatchTask} {tasks : List DispatchTask} :
      dispatcher.board.Free task.taskId →
      selectRobot env dispatcher.registry task now timeout penalties = .ok none →
      Turns env now timeout penalties dispatcher (task :: tasks) [] dispatcher

section Loop

variable {env : Environment} {now : Datetime} {timeout : Floating} {penalties : Dict String ℚ}
  {dispatcher after : FleetDispatcher} {task : DispatchTask} {tasks : List DispatchTask}
  {results : List AssignmentRecord}

lemma run_skipped (hheld : ¬ dispatcher.board.Free task.taskId) :
    (dispatchLoop env now timeout penalties (task :: tasks)).run dispatcher =
      (dispatchLoop env now timeout penalties tasks).run dispatcher := by
  have hsome : (dispatcher.getAssignmentForTask task.taskId).isSome := by
    rw [Option.isSome_iff_ne_none]
    exact fun hnone => hheld (getAssignmentForTask_eq_none.mp hnone)
  rw [dispatchLoop]
  simp only [EStateM.run_bind, EStateM.run_get, hsome, if_true]

lemma run_assigned (hfree : dispatcher.board.Free task.taskId) {assignment : AssignmentRecord}
    {mid : FleetDispatcher}
    (h : (assignTask env task now timeout penalties).run dispatcher = .ok assignment mid) :
    (dispatchLoop env now timeout penalties (task :: tasks)).run dispatcher =
      ((assignment :: ·) <$> dispatchLoop env now timeout penalties tasks).run mid := by
  have hnone := getAssignmentForTask_eq_none.mpr hfree
  rw [dispatchLoop]
  simp only [EStateM.run_bind, EStateM.run_get, hnone, Option.isSome_none, Bool.false_eq_true,
    if_false, run_attempt, h]
  rfl

lemma run_raised (hfree : dispatcher.board.Free task.taskId) {e : FleetError}
    {mid : FleetDispatcher}
    (h : (assignTask env task now timeout penalties).run dispatcher = .error e mid) :
    (dispatchLoop env now timeout penalties (task :: tasks)).run dispatcher =
      if e.kind = .noAvailableRobot then .ok [] mid else .error e mid := by
  have hnone := getAssignmentForTask_eq_none.mpr hfree
  rw [dispatchLoop]
  simp only [EStateM.run_bind, EStateM.run_get, hnone, Option.isSome_none, Bool.false_eq_true,
    if_false, run_attempt, h]
  split_ifs
  · rfl
  · rfl

lemma turns_of_ok (hpoints : ∀ e, env.taskPoints = .error e → e.kind ≠ .noAvailableRobot)
    (h : (dispatchLoop env now timeout penalties tasks).run dispatcher = .ok results after) :
    Turns env now timeout penalties dispatcher tasks results after := by
  induction tasks generalizing dispatcher results with
  | nil =>
    obtain ⟨rfl, rfl⟩ : [] = results ∧ dispatcher = after := by simpa [dispatchLoop] using h
    exact .done dispatcher
  | cons task tasks ih =>
    by_cases hfree : dispatcher.board.Free task.taskId
    · have hends := assignEnds env now timeout penalties hfree
      cases hrun : (assignTask env task now timeout penalties).run dispatcher with
      | ok assignment mid =>
        rw [hrun] at hends
        cases hends with
        | assigned hchosen hassigned =>
          rw [run_assigned hfree hrun, run_map] at h
          cases hlater : (dispatchLoop env now timeout penalties tasks).run mid with
          | error e last => simp [hlater] at h
          | ok later last =>
            rw [hlater] at h
            obtain ⟨rfl, rfl⟩ : assignment :: later = results ∧ last = after := by simpa using h
            exact .assigned hchosen hassigned (ih hlater)
      | error e mid =>
        rw [hrun] at hends
        rw [run_raised hfree hrun] at h
        split_ifs at h with hkind
        obtain ⟨rfl, rfl⟩ : [] = results ∧ mid = after := by simpa using h
        cases hends with
        | unreadable hselect =>
          rcases kind_of_selectRobot hselect with hvalue | htype | hoverflow | hfile
          · simp [hkind] at hvalue
          · simp [hkind] at htype
          · simp [hkind] at hoverflow
          · exact absurd hkind (hpoints e hfile)
        | unavailable hselect => exact .stopped hfree hselect
        | torn hchosen hfails hother htorn => exact absurd hkind hother
    · rw [run_skipped hfree] at h
      exact .skipped hfree (ih h)

lemma turns_of_located (hconverts : env.Converts now)
    (hdb : dispatcher.registry.host.db = none)
    (hnamed : Registered dispatcher.registry.robots)
    (hreadable : Readable env dispatcher.registry.robots now timeout)
    (hlocated : ∀ task ∈ tasks, located env task.pickupStation = true) :
    ∃ results after,
      (dispatchLoop env now timeout penalties tasks).run dispatcher = .ok results after ∧
        Turns env now timeout penalties dispatcher tasks results after := by
  induction tasks generalizing dispatcher with
  | nil => exact ⟨[], dispatcher, rfl, .done dispatcher⟩
  | cons task tasks ih =>
    have hlater : ∀ later ∈ tasks, located env later.pickupStation = true :=
      fun later h => hlocated later (List.mem_cons_of_mem task h)
    by_cases hfree : dispatcher.board.Free task.taskId
    · have hends := assignEnds env now timeout penalties hfree
      cases hrun : (assignTask env task now timeout penalties).run dispatcher with
      | ok assignment mid =>
        rw [hrun] at hends
        cases hends with
        | assigned hchosen hassigned =>
          obtain ⟨results, after, hrest, hturns⟩ := ih (hassigned.in_memory hdb)
            (hassigned.registered hnamed) (hassigned.readable hreadable) hlater
          refine ⟨assignment :: results, after, ?_, .assigned hchosen hassigned hturns⟩
          rw [run_assigned hfree hrun, run_map, hrest]
      | error e mid =>
        rw [hrun] at hends
        rw [run_raised hfree hrun]
        cases hends with
        | unreadable hselect =>
          rw [selectRobot_eq hnamed hreadable (hlocated task List.mem_cons_self)] at hselect
          simp at hselect
        | unavailable hselect => exact ⟨[], dispatcher, rfl, .stopped hfree hselect⟩
        | torn hchosen hfails hother htorn =>
          exact absurd ⟨by simp [hdb], hconverts, by simp [hdb]⟩ hfails
    · obtain ⟨results, after, hrest, hturns⟩ := ih hdb hnamed hreadable hlater
      exact ⟨results, after, (run_skipped hfree).trans hrest, .skipped hfree hturns⟩

end Loop

section Reference

variable (env : Environment) (now utc : Datetime) (timeout : Floating) (penalties : Dict String ℚ)

def isWaiting (dispatcher : FleetDispatcher) (task : DispatchTask) : Bool :=
  (dispatcher.getAssignmentForTask task.taskId).isNone

/-- The tasks without an active assignment, in the order in which they have their turns. -/
def waiting (dispatcher : FleetDispatcher) (tasks : List DispatchTask) : List DispatchTask :=
  (tasks.insertionSort earlier).filter dispatcher.isWaiting

/-- Each waiting task gets the least of the eligible robots that are left. -/
def reference (dispatcher : FleetDispatcher) (tasks : List DispatchTask) :
    List (DispatchTask × RobotRecord) :=
  greedy (rank env penalties) (dispatcher.waiting tasks)
    (eligibleRobots env now timeout dispatcher.registry.robots)

def assignmentFor (pair : DispatchTask × RobotRecord) : AssignmentRecord :=
  draftFor env pair.1 (decisionFor pair.1 (candidateOf env penalties pair.1 pair.2)) utc

structure Dispatched (before : FleetDispatcher) (pairs : List (DispatchTask × RobotRecord))
    (results : List AssignmentRecord) (after : FleetDispatcher) : Prop where
  results_eq : results = pairs.map (assignmentFor env utc penalties)
  bound : ∀ pair ∈ pairs, ∃ stamp, after.registry.robots.get? pair.2.robotId =
    some { pair.2 with
      state := .assigned
      currentTaskId := some pair.1.taskId
      updatedAt := stamp }
  recorded : ∀ pair ∈ pairs,
    after.assignments.get? pair.1.taskId = some (assignmentFor env utc penalties pair)
  other_robots : ∀ robotId, (∀ pair ∈ pairs, pair.2.robotId ≠ robotId) →
    after.registry.robots.get? robotId = before.registry.robots.get? robotId
  other_assignments : ∀ taskId, (∀ pair ∈ pairs, pair.1.taskId ≠ taskId) →
    after.assignments.get? taskId = before.assignments.get? taskId

variable {env now utc timeout penalties} {dispatcher mid after : FleetDispatcher}
  {task : DispatchTask} {tasks : List DispatchTask} {results : List AssignmentRecord}
  {pairs : List (DispatchTask × RobotRecord)} {decision : DispatchDecision} {robot : RobotRecord}
  {assignment : AssignmentRecord}

lemma Dispatched.nil (dispatcher : FleetDispatcher) :
    Dispatched env utc penalties dispatcher [] [] dispatcher :=
  ⟨rfl, by simp, by simp, fun _ _ => rfl, fun _ _ => rfl⟩

lemma Dispatched.cons (hutc : env.astimezone now = .ok utc)
    (hdb : dispatcher.registry.host.db = none)
    (hnamed : Registered dispatcher.registry.robots)
    (hchosen : Chosen env dispatcher task now timeout penalties decision robot)
    (hassigned : Assigned env dispatcher task now decision robot assignment mid)
    (hrobot : ∀ pair ∈ pairs, pair.2.robotId ≠ robot.robotId)
    (htask : ∀ pair ∈ pairs, pair.1.taskId ≠ task.taskId)
    (h : Dispatched env utc penalties mid pairs results after) :
    Dispatched env utc penalties dispatcher ((task, robot) :: pairs) (assignment :: results)
      after := by
  obtain ⟨-, -, hdecision⟩ := hchosen.least hnamed
  have hrecord : assignment = assignmentFor env utc penalties (task, robot) := by
    obtain ⟨moment, id, hmoment, hrecord, hid⟩ := hassigned.record
    obtain rfl := Except.ok.inj (hutc.symm.trans hmoment)
    rw [hrecord, hid hdb, hdecision]
    rfl
  refine ⟨?_, ?_, ?_, ?_, ?_⟩
  · rw [List.map_cons, ← hrecord, h.results_eq]
  · intro pair hpair
    rcases List.mem_cons.mp hpair with rfl | hlater
    · rw [h.other_robots _ hrobot, hassigned.robots_eq, Dict.get?_set_self]
      exact ⟨_, rfl⟩
    · exact h.bound pair hlater
  · intro pair hpair
    rcases List.mem_cons.mp hpair with rfl | hlater
    · rw [h.other_assignments _ htask, hassigned.assignments_eq, Dict.get?_set_self, hrecord]
    · exact h.recorded pair hlater
  · intro robotId hother
    have hne : robot.robotId ≠ robotId := hother (task, robot) List.mem_cons_self
    rw [h.other_robots robotId fun pair hpair => hother pair (List.mem_cons_of_mem _ hpair),
      hassigned.robots_eq, Dict.get?_set_of_ne _ _ hne.symm]
  · intro taskId hother
    have hne : task.taskId ≠ taskId := hother (task, robot) List.mem_cons_self
    rw [h.other_assignments taskId fun pair hpair => hother pair (List.mem_cons_of_mem _ hpair),
      hassigned.assignments_eq, Dict.get?_set_of_ne _ _ hne.symm]

lemma isWaiting_iff : dispatcher.isWaiting task = true ↔ dispatcher.board.Free task.taskId := by
  rw [isWaiting, Option.isNone_iff_eq_none, getAssignmentForTask_eq_none]

lemma Assigned.filter_waiting (hdistinct : ∀ later ∈ tasks, later.taskId ≠ task.taskId)
    (h : Assigned env dispatcher task now decision robot assignment mid) :
    tasks.filter mid.isWaiting = tasks.filter dispatcher.isWaiting := by
  apply List.filter_congr
  intro later hlater
  rw [Bool.eq_iff_iff, isWaiting_iff, isWaiting_iff, h.free_iff]
  exact and_iff_right (hdistinct later hlater)

lemma Turns.dispatched (h : Turns env now timeout penalties dispatcher tasks results after)
    (hutc : env.astimezone now = .ok utc)
    (hdb : dispatcher.registry.host.db = none) (hnamed : Registered dispatcher.registry.robots)
    (hdistinct : (tasks.map DispatchTask.taskId).Nodup)
    (hlocated : ∀ task ∈ tasks, located env task.pickupStation = true) :
    Dispatched env utc penalties dispatcher
      (greedy (rank env penalties) (tasks.filter dispatcher.isWaiting)
        (eligibleRobots env now timeout dispatcher.registry.robots)) results after := by
  induction h with
  | done dispatcher => exact .nil dispatcher
  | @skipped dispatcher after task tasks results hheld _ ih =>
    rw [List.map_cons, List.nodup_cons] at hdistinct
    rw [List.filter_cons_of_neg (fun hfree => hheld (isWaiting_iff.mp hfree))]
    exact ih hdb hnamed hdistinct.2 fun later hl => hlocated later (List.mem_cons_of_mem task hl)
  | @assigned dispatcher mid after task tasks results decision robot assignment hchosen hassigned
      _ ih =>
    rw [List.map_cons, List.nodup_cons] at hdistinct
    have hnew : ∀ later ∈ tasks, later.taskId ≠ task.taskId := by
      intro later hlater hsame
      exact hdistinct.1 (hsame ▸ List.mem_map_of_mem hlater)
    obtain ⟨-, hleast, -⟩ := hchosen.least hnamed
    have hmem := List.argmin_mem hleast
    have hlater := ih (hassigned.in_memory hdb) (hassigned.registered hnamed) hdistinct.2
      fun later hl => hlocated later (List.mem_cons_of_mem task hl)
    rw [hassigned.filter_waiting hnew,
      hassigned.eligibleRobots_eq hnamed (get?_of_eligible hnamed hmem)] at hlater
    rw [List.filter_cons_of_pos (isWaiting_iff.mpr hchosen.free), greedy_cons hleast]
    refine hlater.cons hutc hdb hnamed hchosen hassigned ?_ ?_
    · intro pair hpair hsame
      have hleft := mem_workers_of_greedy hpair
      have hget := get?_of_eligible hnamed (List.mem_of_mem_erase hleft)
      rw [hsame, get?_of_eligible hnamed hmem] at hget
      rw [← Option.some.inj hget] at hleft
      exact (nodup_eligibleRobots hnamed).not_mem_erase hleft
    · intro pair hpair
      exact hnew pair.1 (List.mem_of_mem_filter (mem_jobs_of_greedy hpair))
  | @stopped dispatcher task tasks hfree hselect =>
    have hnone := ((none_of_selectRobot hnamed hselect).2.mp rfl).resolve_left
      (by simp [hlocated task List.mem_cons_self])
    rw [hnone, greedy_nil]
    exact .nil dispatcher

lemma earlier_iff {a b : DispatchTask} :
    earlier a b ↔ toLex (priorityOrder a.priority, a.taskId) ≤
      toLex (priorityOrder b.priority, b.taskId) := by
  rw [Prod.Lex.toLex_le_toLex, earlier]

instance : Std.Total earlier where
  total a b := by
    rw [earlier_iff, earlier_iff]
    exact le_total _ _

instance : IsTrans DispatchTask earlier where
  trans a b c hab hbc := by
    rw [earlier_iff] at *
    exact hab.trans hbc

lemma insertionSort_of_perm {shuffled : List DispatchTask} (hperm : shuffled.Perm tasks)
    (hdistinct : (tasks.map DispatchTask.taskId).Nodup) :
    shuffled.insertionSort earlier = tasks.insertionSort earlier := by
  have hsame : (shuffled.insertionSort earlier).Perm (tasks.insertionSort earlier) :=
    ((List.perm_insertionSort earlier shuffled).trans hperm).trans
      (List.perm_insertionSort earlier tasks).symm
  refine hsame.eq_of_pairwise ?_ (List.pairwise_insertionSort earlier shuffled)
    (List.pairwise_insertionSort earlier tasks)
  intro a b ha hb hab hba
  rw [List.mem_insertionSort] at ha hb
  have hid : a.taskId = b.taskId := by
    rw [earlier_iff] at hab hba
    exact congrArg (fun key => (ofLex key).2) (le_antisymm hab hba)
  exact List.inj_on_of_nodup_map hdistinct (hperm.mem_iff.mp ha) hb hid

variable (env now utc timeout penalties dispatcher tasks) in
/-- The call returns what the reference says and does that, in whatever order the tasks come. -/
def DispatchesGreedily : Prop :=
  ∃ results after, (dispatchTasks env tasks now timeout penalties).run dispatcher =
      .ok results after ∧
    Dispatched env utc penalties dispatcher (reference env now timeout penalties dispatcher tasks)
      results after ∧
    (results.map AssignmentRecord.robotId).Nodup ∧ (results.map AssignmentRecord.taskId).Nodup ∧
    ∀ shuffled, shuffled.Perm tasks →
      (dispatchTasks env shuffled now timeout penalties).run dispatcher = .ok results after

lemma nodup_robots_of_reference (hnamed : Registered dispatcher.registry.robots) :
    ((reference env now timeout penalties dispatcher tasks).map
      fun pair => pair.2.robotId).Nodup := by
  have heligible : (eligibleRobots env now timeout dispatcher.registry.robots).Nodup :=
    nodup_eligibleRobots hnamed
  have hworkers := nodup_workers_of_greedy (rank env penalties) (dispatcher.waiting tasks)
    heligible
  have hnames : ∀ robot ∈ (reference env now timeout penalties dispatcher tasks).map Prod.snd,
      ∀ other ∈ (reference env now timeout penalties dispatcher tasks).map Prod.snd,
        robot.robotId = other.robotId → robot = other := by
    intro robot hrobot other hother hname
    obtain ⟨pair, hpair, rfl⟩ := List.mem_map.mp hrobot
    obtain ⟨pair', hpair', rfl⟩ := List.mem_map.mp hother
    have hget := get?_of_eligible hnamed (mem_workers_of_greedy hpair)
    rw [hname, get?_of_eligible hnamed (mem_workers_of_greedy hpair')] at hget
    exact (Option.some.inj hget).symm
  have hmap := List.Nodup.map_on hnames hworkers
  rw [List.map_map] at hmap
  exact hmap

lemma nodup_tasks_of_reference (hdistinct : (tasks.map DispatchTask.taskId).Nodup) :
    ((reference env now timeout penalties dispatcher tasks).map
      fun pair => pair.1.taskId).Nodup := by
  have hsorted : ((tasks.insertionSort earlier).map DispatchTask.taskId).Nodup :=
    ((List.perm_insertionSort earlier tasks).map DispatchTask.taskId).nodup_iff.mpr hdistinct
  have hserved : (reference env now timeout penalties dispatcher tasks).map
      (fun pair => pair.1.taskId) =
        ((dispatcher.waiting tasks).take (eligibleRobots env now timeout
          dispatcher.registry.robots).length).map DispatchTask.taskId := by
    rw [← jobs_of_greedy (rank env penalties), List.map_map]
    rfl
  rw [hserved]
  exact hsorted.sublist (((List.take_sublist _ _).trans List.filter_sublist).map _)

end Reference

section Greedy

variable {env : Environment} {now utc : Datetime} {timeout : Floating} {penalties : Dict String ℚ}
  {dispatcher : FleetDispatcher} {tasks : List DispatchTask}

theorem dispatch_tasks_is_greedy (hutc : env.astimezone now = .ok utc)
    (hdb : dispatcher.registry.host.db = none)
    (hnamed : Registered dispatcher.registry.robots)
    (hreadable : Readable env dispatcher.registry.robots now timeout)
    (hdistinct : (tasks.map DispatchTask.taskId).Nodup)
    (hlocated : ∀ task ∈ tasks, located env task.pickupStation = true) :
    DispatchesGreedily env now utc timeout penalties dispatcher tasks := by
  have hsorted : ((tasks.insertionSort earlier).map DispatchTask.taskId).Nodup :=
    ((List.perm_insertionSort earlier tasks).map DispatchTask.taskId).nodup_iff.mpr hdistinct
  have hall : ∀ task ∈ tasks.insertionSort earlier, located env task.pickupStation = true :=
    fun task htask => hlocated task ((List.mem_insertionSort earlier).mp htask)
  have hreturns : ∃ results after, (dispatchTasks env tasks now timeout penalties).run dispatcher =
      .ok results after ∧
      Turns env now timeout penalties dispatcher (tasks.insertionSort earlier) results after :=
    turns_of_located ⟨utc, hutc⟩ hdb hnamed hreadable hall
  obtain ⟨results, after, hrun, hturns⟩ := hreturns
  have hdone := hturns.dispatched hutc hdb hnamed hsorted hall
  refine ⟨results, after, hrun, hdone, ?_, ?_, ?_⟩
  · rw [hdone.results_eq, List.map_map]
    exact nodup_robots_of_reference hnamed
  · rw [hdone.results_eq, List.map_map]
    exact nodup_tasks_of_reference hdistinct
  · intro shuffled hperm
    rw [dispatchTasks, insertionSort_of_perm hperm hdistinct]
    exact hrun

def twoIdle (heartbeat key : String) : FleetDispatcher :=
  ⟨⟨Dict.ofList
    [("robot_01", ⟨"robot_01", .idle, none, some defaultStation, some heartbeat, 100, ""⟩),
      (key, ⟨"robot_02", .idle, none, some defaultStation, some "1970-01-01T00:00:00Z", 100, ""⟩)],
    ⟨0, none⟩⟩, Dict.empty, []⟩

lemma registered_twoIdle (heartbeat : String) :
    Registered (twoIdle heartbeat "robot_02").registry.robots := by
  intro robotId robot hget
  simp only [twoIdle, Dict.ofList, List.foldl, Dict.get?_set, Dict.get?_empty] at hget
  split_ifs at hget with hsecond hfirst
  · rw [← Option.some.inj hget, hsecond]
  · rw [← Option.some.inj hget, hfirst]

lemma not_oversized_still (station : Option String) :
    station.any (oversized still) = false := by
  cases station with
  | none => rfl
  | some name =>
    rw [Option.any_some, oversized]
    simp only [still, stationXy, Dict.ofList, List.map, List.foldl, Dict.get?_set, Dict.get?_empty]
    split_ifs <;> rfl

lemma readable_still (robots : Dict String RobotRecord) (timeout : Floating) :
    Readable still robots ⟨true, 0⟩ timeout := by
  intro robotId robot _ _
  rw [isHeartbeatValid]
  cases robot.lastHeartbeat with
  | none => exact ⟨_, rfl, fun _ => not_oversized_still _⟩
  | some heartbeat => exact ⟨_, rfl, fun _ => not_oversized_still _⟩

theorem dispatch_tasks_is_greedy_for_three :
    DispatchesGreedily still ⟨true, 0⟩ ⟨true, 0⟩ 30 Dict.empty
      (twoIdle "1970-01-01T00:00:00Z" "robot_02") [toShelf 3, toShelf 1, toShelf 2] := by
  apply dispatch_tasks_is_greedy
  · rfl
  · rfl
  · exact registered_twoIdle _
  · exact readable_still _ _
  · decide
  · decide +kernel

/-- A heartbeat that cannot be read stops the batch, a robot under a foreign name is passed over,
and a moment before the first UTC datetime stops the batch with a robot bound. -/
theorem odd_records_are_not_dispatched :
    let env := { still with
      fromisoformat := fun text => if text = "never" then none else some ⟨true, 0⟩ }
    ¬ DispatchesGreedily env ⟨true, 0⟩ ⟨true, 0⟩ 30 Dict.empty (twoIdle "never" "robot_02")
        [toShelf 1] ∧
      ¬ DispatchesGreedily still ⟨true, 0⟩ ⟨true, 0⟩ 30 Dict.empty
        (twoIdle "1970-01-01T00:00:00Z" "spare") [toShelf 1, toShelf 2] ∧
      ∀ utc, ¬ DispatchesGreedily still beforeYearOne utc 30 Dict.empty
        (twoIdle "1970-01-01T00:00:00Z" "robot_02") [toShelf 1] := by
  intro env
  refine ⟨?_, ?_, ?_⟩
  · rintro ⟨results, after, hrun, -⟩
    have hraises : raises (dispatchTasks env [toShelf 1] ⟨true, 0⟩ 30 Dict.empty)
        (twoIdle "never" "robot_02") = true := by decide +kernel
    rw [raises_of_ok hrun] at hraises
    simp at hraises
  · rintro ⟨results, after, hrun, hdone, -⟩
    have hmem : (2 : ℤ) ∈ (reference still ⟨true, 0⟩ 30 Dict.empty
        (twoIdle "1970-01-01T00:00:00Z" "spare") [toShelf 1, toShelf 2]).map
          fun pair => pair.1.taskId := by decide +kernel
    obtain ⟨pair, hpair, hid⟩ := List.mem_map.mp hmem
    have hnone : (final (dispatchTasks still [toShelf 1, toShelf 2] ⟨true, 0⟩ 30 Dict.empty)
        (twoIdle "1970-01-01T00:00:00Z" "spare")).assignments.get? 2 = none := by decide +kernel
    rw [final_of_ok hrun, ← hid, hdone.recorded pair hpair] at hnone
    simp at hnone
  · rintro utc ⟨results, after, hrun, -⟩
    have hraises : raises (dispatchTasks still [toShelf 1] beforeYearOne 30 Dict.empty)
        (twoIdle "1970-01-01T00:00:00Z" "robot_02") = true := by decide +kernel
    rw [raises_of_ok hrun] at hraises
    simp at hraises

end Greedy

end FleetDispatcher

end Fleet
