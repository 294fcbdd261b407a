import AmrWarehouse.Fleet.DispatchTasks

/-! Whether a batch leaves a task behind for which there still is a robot. -/

namespace Fleet

open Library

namespace FleetDispatcher

section Blocking

variable (env : Environment) (now : Datetime) (timeout : Floating)

def servable (dispatcher : FleetDispatcher) (tasks : List DispatchTask) : Finset ℤ :=
  ((tasks.filter fun task => dispatcher.isWaiting task && located env task.pickupStation).map
    DispatchTask.taskId).toFinset

/-- The task has no active assignment and gets none through the tasks in front of it. -/
def Unserved (dispatcher : FleetDispatcher) (front : List DispatchTask) (task : DispatchTask) :
    Prop :=
  dispatcher.board.Free task.taskId ∧ task.taskId ∉ servable env dispatcher front

/-- A task to a station without coordinates has its turn while robots are left, before a task to a
station that has coordinates. -/
structure Blocks (dispatcher : FleetDispatcher) (tasks front later : List DispatchTask)
    (task other : DispatchTask) : Prop where
  split : tasks = front ++ task :: later
  unserved : Unserved env dispatcher front task
  uncharted : charted env task.pickupStation = false
  behind : other ∈ later
  other_unserved : Unserved env dispatcher front other
  other_charted : charted env other.pickupStation = true
  robots_left : (servable env dispatcher front).card <
    (eligibleRobots env now timeout dispatcher.registry.robots).length

def Blocked (dispatcher : FleetDispatcher) (tasks : List DispatchTask) : Prop :=
  ∃ front later task other, Blocks env now timeout dispatcher tasks front later task other

variable {env now timeout} {penalties : Dict String ℚ} {dispatcher mid after : FleetDispatcher}
  {task : DispatchTask} {tasks front : List DispatchTask} {results : List AssignmentRecord}
  {decision : DispatchDecision} {robot : RobotRecord} {assignment : AssignmentRecord}

lemma mem_servable {taskId : ℤ} :
    taskId ∈ servable env dispatcher tasks ↔ ∃ task ∈ tasks, task.taskId = taskId ∧
      dispatcher.board.Free taskId ∧ located env task.pickupStation = true := by
  simp only [servable, List.mem_toFinset, List.mem_map, List.mem_filter, Bool.and_eq_true,
    isWaiting_iff]
  constructor
  · rintro ⟨task, ⟨hmem, hfree, hlocated⟩, rfl⟩
    exact ⟨task, hmem, rfl, hfree, hlocated⟩
  · rintro ⟨task, hmem, rfl, hfree, hlocated⟩
    exact ⟨task, ⟨hmem, hfree, hlocated⟩, rfl⟩

lemma servable_skipped (hheld : ¬ dispatcher.board.Free task.taskId) :
    servable env dispatcher (task :: front) = servable env dispatcher front := by
  ext taskId
  rw [mem_servable, mem_servable]
  constructor
  · rintro ⟨first, hfirst, rfl, hfree, hlocated⟩
    rcases List.mem_cons.mp hfirst with rfl | hlater
    · exact absurd hfree hheld
    · exact ⟨first, hlater, rfl, hfree, hlocated⟩
  · rintro ⟨first, hfirst, rest⟩
    exact ⟨first, List.mem_cons_of_mem task hfirst, rest⟩

variable (front) in
lemma servable_assigned (hfree : dispatcher.board.Free task.taskId)
    (hlocated : located env task.pickupStation = true)
    (h : Assigned env dispatcher task now decision robot assignment mid) :
    servable env dispatcher (task :: front) = insert task.taskId (servable env mid front) ∧
      task.taskId ∉ servable env mid front := by
  constructor
  · ext taskId
    rw [Finset.mem_insert, mem_servable, mem_servable, h.free_iff]
    constructor
    · rintro ⟨first, hfirst, rfl, hwaiting, hknown⟩
      by_cases hsame : first.taskId = task.taskId
      · exact .inl hsame
      · rcases List.mem_cons.mp hfirst with rfl | hlater
        · exact absurd rfl hsame
        · exact .inr ⟨first, hlater, rfl, ⟨hsame, hwaiting⟩, hknown⟩
    · rintro (rfl | ⟨first, hfirst, rfl, ⟨-, hwaiting⟩, hknown⟩)
      · exact ⟨task, List.mem_cons_self, rfl, hfree, hlocated⟩
      · exact ⟨first, List.mem_cons_of_mem task hfirst, rfl, hwaiting, hknown⟩
  · intro hmem
    obtain ⟨first, -, -, hwaiting, -⟩ := mem_servable.mp hmem
    exact ((h.free_iff _).mp hwaiting).1 rfl

lemma Turns.free_of_free (h : Turns env now timeout penalties dispatcher tasks results after)
    {taskId : ℤ} (hfree : after.board.Free taskId) : dispatcher.board.Free taskId := by
  induction h with
  | done dispatcher => exact hfree
  | skipped _ _ ih => exact ih hfree
  | assigned _ hassigned _ ih => exact ((hassigned.free_iff taskId).mp (ih hfree)).2
  | stopped _ _ => exact hfree

lemma Turns.registered (h : Turns env now timeout penalties dispatcher tasks results after)
    (hnamed : Registered dispatcher.registry.robots) : Registered after.registry.robots := by
  induction h with
  | done dispatcher => exact hnamed
  | skipped _ _ ih => exact ih hnamed
  | assigned _ hassigned _ ih => exact ih (hassigned.registered hnamed)
  | stopped _ _ => exact hnamed

lemma not_blocked_nil : ¬ Blocked env now timeout dispatcher [] := by
  rintro ⟨front, later, task, other, h⟩
  have hsplit := h.split
  simp at hsplit

lemma blocked_cons_iff
    (hfirst : dispatcher.board.Free task.taskId → located env task.pickupStation = true)
    (hunserved : ∀ front first,
      Unserved env dispatcher (task :: front) first ↔ Unserved env mid front first)
    (hleft : ∀ front, (servable env dispatcher (task :: front)).card <
        (eligibleRobots env now timeout dispatcher.registry.robots).length ↔
      (servable env mid front).card <
        (eligibleRobots env now timeout mid.registry.robots).length) :
    Blocked env now timeout dispatcher (task :: tasks) ↔ Blocked env now timeout mid tasks := by
  constructor
  · rintro ⟨front, later, first, other, h⟩
    cases front with
    | nil =>
      obtain ⟨rfl, -⟩ := List.cons.inj h.split
      have huncharted := h.uncharted
      simp [charted, hfirst h.unserved.1] at huncharted
    | cons head front =>
      obtain ⟨rfl, hsplit⟩ := List.cons.inj h.split
      exact ⟨front, later, first, other, hsplit, (hunserved front first).mp h.unserved,
        h.uncharted, h.behind, (hunserved front other).mp h.other_unserved, h.other_charted,
        (hleft front).mp h.robots_left⟩
  · rintro ⟨front, later, first, other, h⟩
    exact ⟨task :: front, later, first, other, by rw [h.split, List.cons_append],
      (hunserved front first).mpr h.unserved, h.uncharted, h.behind,
      (hunserved front other).mpr h.other_unserved, h.other_charted,
      (hleft front).mpr h.robots_left⟩

lemma blocked_skipped (hheld : ¬ dispatcher.board.Free task.taskId) :
    Blocked env now timeout dispatcher (task :: tasks) ↔
      Blocked env now timeout dispatcher tasks := by
  apply blocked_cons_iff
  · exact fun hfree => absurd hfree hheld
  · intro front first
    rw [Unserved, Unserved, servable_skipped hheld]
  · intro front
    rw [servable_skipped hheld]

lemma blocked_assigned (hnamed : Registered dispatcher.registry.robots)
    (hchosen : Chosen env dispatcher task now timeout penalties decision robot)
    (h : Assigned env dispatcher task now decision robot assignment mid) :
    Blocked env now timeout dispatcher (task :: tasks) ↔ Blocked env now timeout mid tasks := by
  obtain ⟨hlocated, hleast, -⟩ := hchosen.least hnamed
  have hmem := List.argmin_mem hleast
  apply blocked_cons_iff
  · exact fun _ => hlocated
  · intro front first
    obtain ⟨hinsert, -⟩ := servable_assigned front hchosen.free hlocated h
    rw [Unserved, Unserved, hinsert, Finset.mem_insert, h.free_iff]
    tauto
  · intro front
    obtain ⟨hinsert, hnew⟩ := servable_assigned front hchosen.free hlocated h
    have hlength := List.length_pos_of_mem hmem
    rw [hinsert, Finset.card_insert_of_notMem hnew,
      h.eligibleRobots_eq hnamed (get?_of_eligible hnamed hmem), List.length_erase_of_mem hmem]
    omega

lemma blocked_stopped (hfree : dispatcher.board.Free task.taskId)
    (hnone : charted env task.pickupStation = false ∨
      eligibleRobots env now timeout dispatcher.registry.robots = []) :
    Blocked env now timeout dispatcher (task :: tasks) ↔
      ∃ other ∈ task :: tasks, dispatcher.board.Free other.taskId ∧
        charted env other.pickupStation = true ∧
        eligibleRobots env now timeout dispatcher.registry.robots ≠ [] := by
  constructor
  · rintro ⟨front, later, first, other, h⟩
    refine ⟨other, ?_, h.other_unserved.1, h.other_charted, ?_⟩
    · rw [h.split]
      exact List.mem_append_right front (List.mem_cons_of_mem first h.behind)
    · intro hempty
      have hleft := h.robots_left
      simp [hempty] at hleft
  · rintro ⟨other, hother, hwaiting, hcharted, hsome⟩
    have huncharted := hnone.resolve_right hsome
    have hbehind : other ∈ tasks := by
      rcases List.mem_cons.mp hother with rfl | hlater
      · simp [hcharted] at huncharted
      · exact hlater
    refine ⟨[], tasks, task, other, rfl, ⟨hfree, ?_⟩, huncharted, hbehind, ⟨hwaiting, ?_⟩,
      hcharted, ?_⟩
    · simp [servable]
    · simp [servable]
    · simpa [servable] using List.length_pos_of_ne_nil hsome

lemma Turns.left_behind_iff (hnamed : Registered dispatcher.registry.robots)
    (h : Turns env now timeout penalties dispatcher tasks results after) :
    Blocked env now timeout dispatcher tasks ↔
      ∃ other ∈ tasks, after.board.Free other.taskId ∧
        charted env other.pickupStation = true ∧
        eligibleRobots env now timeout after.registry.robots ≠ [] := by
  induction h with
  | done dispatcher => simp [not_blocked_nil]
  | @skipped dispatcher after task tasks results hheld hturns ih =>
    rw [blocked_skipped hheld, ih hnamed]
    constructor
    · rintro ⟨other, hother, rest⟩
      exact ⟨other, List.mem_cons_of_mem task hother, rest⟩
    · rintro ⟨other, hother, hfree, rest⟩
      rcases List.mem_cons.mp hother with rfl | hlater
      · exact absurd (hturns.free_of_free hfree) hheld
      · exact ⟨other, hlater, hfree, rest⟩
  | @assigned dispatcher mid after task tasks results decision robot assignment hchosen hassigned
      hturns ih =>
    rw [blocked_assigned hnamed hchosen hassigned, ih (hassigned.registered hnamed)]
    constructor
    · rintro ⟨other, hother, rest⟩
      exact ⟨other, List.mem_cons_of_mem task hother, rest⟩
    · rintro ⟨other, hother, hfree, rest⟩
      rcases List.mem_cons.mp hother with rfl | hlater
      · exact absurd rfl ((hassigned.free_iff _).mp (hturns.free_of_free hfree)).1
      · exact ⟨other, hlater, hfree, rest⟩
  | @stopped dispatcher task tasks hfree hselect =>
    exact blocked_stopped hfree (uncharted_of_none hnamed hselect)

lemma Turns.exists_stop (h : Turns env now timeout penalties dispatcher tasks results after)
    {other : DispatchTask} (hother : other ∈ tasks) (hfree : after.board.Free other.taskId) :
    ∃ task, selectRobot env after.registry task now timeout penalties = .ok none := by
  induction h with
  | done dispatcher => simp at hother
  | skipped hheld hturns ih =>
    rcases List.mem_cons.mp hother with rfl | hlater
    · exact absurd (hturns.free_of_free hfree) hheld
    · exact ih hlater hfree
  | assigned _ hassigned hturns ih =>
    rcases List.mem_cons.mp hother with rfl | hlater
    · exact absurd rfl ((hassigned.free_iff _).mp (hturns.free_of_free hfree)).1
    · exact ih hlater hfree
  | stopped _ hselect => exact ⟨_, hselect⟩

lemma candidate?_of_other {registry : RobotRegistry} {other : DispatchTask}
    (hget : registry.robots.get? robot.robotId = some robot) {found : Option DispatchCandidate}
    (h : candidate? env registry other now timeout penalties robot = .ok found)
    (hsmall : eligible env now timeout robot = true →
      oversized env task.pickupStation = false) :
    ∃ found, candidate? env registry task now timeout penalties robot = .ok found := by
  rw [candidate?, canAcceptTask_eq hget] at h ⊢
  by_cases hidle : robot.state = .idle
  swap
  · rw [if_neg hidle]
    exact ⟨none, rfl⟩
  rw [if_pos hidle] at h ⊢
  cases hvalid : isHeartbeatValid env robot now timeout with
  | error e => simp [hvalid, bind, Except.bind] at h
  | ok valid =>
    cases valid with
    | false => exact ⟨none, rfl⟩
    | true =>
      simp only [hvalid, bind, Except.bind, if_true] at h ⊢
      cases hcost : computeAssignmentCost env robot.currentStation task.pickupStation
          task.priority ((penalties.get? robot.robotId).getD 0) with
      | ok cost => exact ⟨_, rfl⟩
      | error e =>
        -- what stops this task before its own station is looked at would have stopped the other
        have hkind : e.kind = .stationNotFound := by
          rcases kind_of_cost hcost with hkind | hpoints | ⟨hkind, hrobot | ⟨hrobot, hlarge⟩⟩
          · exact hkind
          · have hsame : computeAssignmentCost env robot.currentStation other.pickupStation
                other.priority ((penalties.get? robot.robotId).getD 0) = .error e := by
              rw [computeAssignmentCost, staticStationDistance, hpoints]
              rfl
            by_contra hkind
            simp [hsame, hkind] at h
          · have hraised : ∃ e, computeAssignmentCost env robot.currentStation
                other.pickupStation other.priority ((penalties.get? robot.robotId).getD 0) =
                  .error e ∧ e.kind = .overflowError := cost_of_oversized hrobot
            obtain ⟨e', hsame, hoverflow⟩ := hraised
            simp [hsame, hoverflow] at h
          · rw [hsmall (by simp [eligible, hidle, hvalid, hrobot])] at hlarge
            cases hlarge
        exact ⟨none, by simp [hkind, pure, Except.pure]⟩

lemma no_candidates_iff {registry : RobotRegistry} (hnamed : Registered registry.robots)
    {other : DispatchTask}
    (h : selectRobot env registry other now timeout penalties = .ok none) :
    listCandidates env registry task now timeout penalties = .ok [] ↔
      charted env task.pickupStation = false ∨
        eligibleRobots env now timeout registry.robots = [] := by
  constructor
  · intro hnil
    exact uncharted_of_none hnamed (selectRobot_eq_head hnil)
  · intro hnone
    have hlisted : ∃ found, registry.listRobots.mapM
        (candidate? env registry task now timeout penalties) = .ok found := by
      refine mapM_ok fun robot hrobot => ?_
      rw [selectRobot, listCandidates] at h
      cases hfound : registry.listRobots.mapM
          (candidate? env registry other now timeout penalties) with
      | error e => simp [hfound, bind, Except.bind] at h
      | ok found =>
        obtain ⟨answer, hanswer⟩ := exists_of_mapM_ok hfound hrobot
        refine candidate?_of_other (get?_of_listed hnamed hrobot) hanswer fun heligible => ?_
        rcases hnone with huncharted | hempty
        · rw [charted, Bool.or_eq_false_iff] at huncharted
          exact huncharted.2
        · have hmem : robot ∈ eligibleRobots env now timeout registry.robots :=
            List.mem_filter.mpr ⟨hrobot, heligible⟩
          rw [hempty] at hmem
          cases hmem
    obtain ⟨found, hfound⟩ := hlisted
    have hlist : listCandidates env registry task now timeout penalties =
        .ok ((found.filterMap id).insertionSort before) := by
      rw [listCandidates, hfound]
      rfl
    have hlocated : located env task.pickupStation = false ∨
        eligibleRobots env now timeout registry.robots = [] := by
      refine hnone.imp_left fun huncharted => ?_
      rw [charted, Bool.or_eq_false_iff] at huncharted
      exact huncharted.1
    rw [hlist, listCandidates_of_ok hnamed hlist]
    rcases hlocated with hunlocated | hempty
    · rw [hunlocated]
      rfl
    · rw [hempty]
      split_ifs <;> rfl

theorem dispatch_tasks_work_conserving_iff
    (hpoints : ∀ e, env.taskPoints = .error e → e.kind ≠ .noAvailableRobot)
    (hnamed : Registered dispatcher.registry.robots)
    (hrun : (dispatchTasks env tasks now timeout penalties).run dispatcher = .ok results after) :
    (∀ task ∈ tasks, after.getAssignmentForTask task.taskId = none →
        listCandidates env after.registry task now timeout penalties = .ok []) ↔
      ¬ Blocked env now timeout dispatcher (tasks.insertionSort earlier) := by
  have hturns := turns_of_ok hpoints hrun
  have hlast := hturns.registered hnamed
  have hcandidates : ∀ task ∈ tasks, after.board.Free task.taskId →
      (listCandidates env after.registry task now timeout penalties = .ok [] ↔
        charted env task.pickupStation = false ∨
          eligibleRobots env now timeout after.registry.robots = []) := by
    intro task htask hfree
    obtain ⟨stop, hstop⟩ :=
      hturns.exists_stop ((List.mem_insertionSort earlier).mpr htask) hfree
    exact no_candidates_iff hlast hstop
  rw [hturns.left_behind_iff hnamed]
  push Not
  constructor
  · intro hconserves other hother hfree hcharted
    have htask := (List.mem_insertionSort earlier).mp hother
    have hempty := hconserves other htask (getAssignmentForTask_eq_none.mpr hfree)
    rw [hcandidates other htask hfree] at hempty
    exact hempty.resolve_left (by simp [hcharted])
  · intro hleft task htask hfree
    rw [getAssignmentForTask_eq_none] at hfree
    rw [hcandidates task htask hfree]
    cases hcharted : charted env task.pickupStation with
    | false => exact .inl rfl
    | true => exact .inr (hleft task ((List.mem_insertionSort earlier).mpr htask) hfree hcharted)

def oneIdle : FleetDispatcher :=
  ⟨⟨Dict.ofList
    [("robot_01", ⟨"robot_01", .idle, none, some defaultStation, some "", 100, ""⟩)],
    ⟨0, none⟩⟩, Dict.empty, []⟩

def toNowhere (taskId : ℤ) : DispatchTask := ⟨taskId, "nowhere", none, "normal", normal_supported⟩

theorem dispatch_tasks_work_conserving_iff_two :
    ∃ results after, (dispatchTasks still [toShelf 1, toShelf 2] ⟨true, 0⟩ 30 Dict.empty).run
        oneIdle = .ok results after ∧
      ((∀ task ∈ [toShelf 1, toShelf 2], after.getAssignmentForTask task.taskId = none →
          listCandidates still after.registry task ⟨true, 0⟩ 30 Dict.empty = .ok []) ↔
        ¬ Blocked still ⟨true, 0⟩ 30 oneIdle ([toShelf 1, toShelf 2].insertionSort earlier)) := by
  have hreturns : raises (dispatchTasks still [toShelf 1, toShelf 2] ⟨true, 0⟩ 30 Dict.empty)
      oneIdle = false := by decide +kernel
  obtain ⟨results, after, hrun⟩ := exists_of_returns hreturns
  refine ⟨results, after, hrun, dispatch_tasks_work_conserving_iff ?_ ?_ hrun⟩
  · intro e hfile
    simp [still] at hfile
  · intro robotId robot hget
    simp only [oneIdle, Dict.ofList, List.foldl, Dict.get?_set, Dict.get?_empty] at hget
    split_ifs at hget with hname
    rw [← Option.some.inj hget, hname]

/-- The first of two tasks goes to a station that is not on the map. -/
theorem unknown_station_blocks_the_batch :
    let call := dispatchTasks still [toNowhere 1, toShelf 2] ⟨true, 0⟩ 30 Dict.empty
    raises call oneIdle = false ∧ (final call oneIdle).getAssignmentForTask 2 = none ∧
      listCandidates still (final call oneIdle).registry (toShelf 2) ⟨true, 0⟩ 30 Dict.empty ≠
        .ok [] := by
  refine ⟨by decide +kernel, by decide +kernel, fun hnil => ?_⟩
  have hlength := congrArg (fun found => found.toOption.map List.length) hnil
  revert hlength
  decide +kernel

end Blocking

end FleetDispatcher

end Fleet
