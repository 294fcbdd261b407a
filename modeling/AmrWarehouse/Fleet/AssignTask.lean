import AmrWarehouse.Fleet.Candidates
import AmrWarehouse.Fleet.FleetRuns

/-! The dispatcher's assignment of one task, with the two rows it writes where there is a
database. -/

namespace Fleet

open Library

namespace FleetDispatcher

section Draft

variable (env : Environment)

def draftFor (task : DispatchTask) (decision : DispatchDecision) (utc : Datetime) :
    AssignmentRecord where
  id := 0
  taskId := task.taskId
  robotId := decision.robotId
  pickupStation := task.pickupStation
  cost := decision.cost
  dispatchReason := decision.dispatchReason
  status := .assigned
  assignedAt := env.utcStamp utc
  updatedAt := env.utcStamp utc

def boundTo (registry : RobotRegistry) (taskId : ℤ) (robot : RobotRecord) : RobotRecord :=
  registry.stamped env { robot with state := .assigned, currentTaskId := some taskId }

end Draft

/-- A free task, and the idle robot that is selected for it. -/
structure Chosen (env : Environment) (dispatcher : FleetDispatcher) (task : DispatchTask)
    (now : Datetime) (timeout : Floating) (penalties : Dict String ℚ) (decision : DispatchDecision)
    (robot : RobotRecord) : Prop where
  free : dispatcher.board.Free task.taskId
  selected : selectRobot env dispatcher.registry task now timeout penalties = .ok (some decision)
  found : dispatcher.registry.robots.get? decision.robotId = some robot
  idle : robot.state = .idle

structure Assigned (env : Environment) (before : FleetDispatcher) (task : DispatchTask)
    (now : Datetime) (decision : DispatchDecision) (robot : RobotRecord)
    (assignment : AssignmentRecord) (after : FleetDispatcher) : Prop where
  robots_eq : after.registry.robots =
    before.registry.robots.set robot.robotId (boundTo env before.registry task.taskId robot)
  assignments_eq : after.assignments = before.assignments.set task.taskId assignment
  record : ∃ utc id, env.astimezone now = .ok utc ∧
    assignment = { draftFor env task decision utc with id := id } ∧
      (before.registry.host.db = none → id = 0)
  in_memory : before.registry.host.db = none → after.registry.host.db = none

section Runs

variable {env : Environment} {dispatcher : FleetDispatcher} {task : DispatchTask} {now : Datetime}
  {timeout : Floating} {penalties : Dict String ℚ} {decision : DispatchDecision}
  {robot : RobotRecord}

lemma exists_chosen (h : dispatcher.board.CanAssign env task now timeout penalties) :
    ∃ decision robot, Chosen env dispatcher task now timeout penalties decision robot := by
  obtain ⟨hfree, decision, hselect⟩ := h
  obtain ⟨robot, hget, hidle⟩ := idle_of_selectRobot hselect
  exact ⟨decision, robot, hfree, hselect, hget, hidle⟩

lemma run_assignTask_chosen (h : Chosen env dispatcher task now timeout penalties decision robot) :
    (assignTask env task now timeout penalties).run dispatcher =
      (do
        let _ ← onRegistry (RobotRegistry.assignTask env decision.robotId task.taskId)
        let utc ← orRaise (env.astimezone now)
        let assignment ←
          if (← get).registry.host.db.isSome then
            onRegistry (persistAssignment env (draftFor env task decision utc))
          else pure (draftFor env task decision utc)
        modify fun dispatcher =>
          { dispatcher with assignments := dispatcher.assignments.set task.taskId assignment }
        let _ ← emitEvent env "TASK_ASSIGNED" (some task.taskId) (some decision.robotId)
          (some decision.dispatchReason) (some (env.utcStamp utc))
        return assignment : Call FleetDispatcher AssignmentRecord).run dispatcher := by
  have hnone := getAssignmentForTask_eq_none.mpr h.free
  rw [assignTask]
  simp only [EStateM.run_bind, EStateM.run_get, hnone, h.selected, run_orRaise_ok]
  rfl

lemma ends_persist {α : Type} {drafted : AssignmentRecord} (hid : drafted.id = 0)
    (hw : dispatcher.registry.host.db.isSome →
      env.writeFails dispatcher.registry.host.ticks = false ∧
        env.readFails (dispatcher.registry.host.ticks + 1) = false)
    {next : AssignmentRecord → Call FleetDispatcher α} {Q : α → FleetDispatcher → Prop}
    {E : FleetDispatcher → Prop}
    (hq : ∀ id kept, kept.board = dispatcher.board →
      (dispatcher.registry.host.db = none → id = 0 ∧ kept.registry.host.db = none) →
      Ends (next { drafted with id := id }) kept Q E) :
    Ends (if dispatcher.registry.host.db.isSome then
        onRegistry (persistAssignment env drafted) >>= next
      else pure drafted >>= next) dispatcher Q E := by
  cases hdb : dispatcher.registry.host.db with
  | none =>
    have hsame : { drafted with id := 0 } = drafted := by rw [← hid]
    have hq0 := hq 0 dispatcher rfl fun _ => ⟨rfl, hdb⟩
    rw [hsame] at hq0
    simpa using hq0
  | some db =>
    obtain ⟨hwrite, hread⟩ := hw (by rw [hdb, Option.isSome_some])
    have hrun := run_onRegistry dispatcher (persistAssignment env drafted)
    rw [run_persistAssignment_new hwrite hread hdb hid] at hrun
    rw [if_pos (by simp), ends_bind]
    apply ends_of_ok hrun
    exact hq _ _ rfl fun hnone => by simp [hdb] at hnone

lemma put_ticks (hdb : dispatcher.registry.host.db.isSome) (robot : RobotRecord) :
    (dispatcher.registry.put env robot).host.ticks = dispatcher.registry.host.ticks + 2 := by
  have hsome : dispatcher.registry.ticked.host.db.isSome = true := hdb
  rw [RobotRegistry.put, RobotRegistry.stored, if_pos hsome]
  rfl

/-- What can still go wrong once a robot has been found. -/
structure Uninterrupted (env : Environment) (dispatcher : FleetDispatcher) (now : Datetime) :
    Prop where
  robot_row : dispatcher.registry.host.db.isSome →
    env.writeFails (dispatcher.registry.host.ticks + 1) = false
  converts : env.Converts now
  assignment_row : dispatcher.registry.host.db.isSome →
    env.writeFails (dispatcher.registry.host.ticks + 2) = false ∧
      env.readFails (dispatcher.registry.host.ticks + 3) = false

lemma Backed.uninterrupted (hb : dispatcher.Backed env) (hconverts : env.Converts now) :
    Uninterrupted env dispatcher now where
  robot_row hdb := (hb.dependable hdb).writes _
  converts := hconverts
  assignment_row hdb := ⟨(hb.dependable hdb).writes _, (hb.dependable hdb).reads _⟩

lemma ends_assignTask_chosen (h : Chosen env dispatcher task now timeout penalties decision robot)
    (hfree : Uninterrupted env dispatcher now) :
    Ends (assignTask env task now timeout penalties) dispatcher
      (fun assignment after => Assigned env dispatcher task now decision robot assignment after)
      (fun _ => False) := by
  have hbound := run_onRegistry dispatcher
    (RobotRegistry.assignTask env decision.robotId task.taskId)
  rw [RobotRegistry.run_assignTask env hfree.robot_row h.found h.idle task.taskId] at hbound
  obtain ⟨utc, hutc⟩ := hfree.converts
  rw [Ends, run_assignTask_chosen h, ← Ends, ends_bind]
  apply ends_of_ok hbound
  rw [ends_bind, hutc, ends_orRaise_ok, ends_bind, ends_get]
  refine ends_persist rfl ?_ ?_
  · intro hdb
    dsimp only at hdb ⊢
    rw [RobotRegistry.put, RobotRegistry.stored_db_isSome] at hdb
    rw [put_ticks hdb]
    exact hfree.assignment_row hdb
  · intro id kept hkept hnone
    rw [ends_bind, ends_modify, ends_bind]
    apply ends_emitEvent
    intro fleetEvent after hsame
    rw [ends_pure]
    simp only [board, Board.mk.injEq] at hkept
    have hboard := hsame.board_eq
    simp only [board, Board.mk.injEq] at hboard
    have hdb : dispatcher.registry.host.db = none → id = 0 ∧ kept.registry.host.db = none := by
      intro hmem
      apply hnone
      rw [RobotRegistry.put, RobotRegistry.stored_db]
      simp [hmem]
    refine ⟨?_, ?_, ⟨utc, id, hutc, rfl, fun hmem => (hdb hmem).1⟩, ?_⟩
    · rw [hboard.1, hkept.1, RobotRegistry.put_robots]
      rfl
    · rw [hboard.2, hkept.2]
    · intro hmem
      rw [hsame.db_eq]
      exact (hdb hmem).2

lemma Chosen.least (hnamed : Registered dispatcher.registry.robots)
    (h : Chosen env dispatcher task now timeout penalties decision robot) :
    located env task.pickupStation = true ∧
      robot ∈ (eligibleRobots env now timeout dispatcher.registry.robots).argmin
        (rank env penalties task) ∧
      decision = decisionFor task (candidateOf env penalties task robot) := by
  have hselect := h.selected
  have hlisted : ∃ candidates,
      listCandidates env dispatcher.registry task now timeout penalties = .ok candidates := by
    rw [selectRobot] at hselect
    cases hlist : listCandidates env dispatcher.registry task now timeout penalties with
    | error e => simp [hlist, bind, Except.bind] at hselect
    | ok candidates => exact ⟨candidates, rfl⟩
  obtain ⟨candidates, hlist⟩ := hlisted
  rw [selectRobot_eq_head hlist, listCandidates_of_ok hnamed hlist] at hselect
  cases hpickup : located env task.pickupStation with
  | false => simp [hpickup] at hselect
  | true =>
    rw [if_pos hpickup, head_candidates hnamed, Option.map_map] at hselect
    obtain ⟨least, hleast, rfl⟩ := Option.map_eq_some_iff.mp (Except.ok.inj hselect)
    have hget := get?_of_eligible hnamed (List.argmin_mem hleast)
    have hsame : least = robot := Option.some.inj (hget.symm.trans h.found)
    subst hsame
    exact ⟨rfl, hleast, rfl⟩

namespace Assigned

variable {assignment : AssignmentRecord} {after : FleetDispatcher}

lemma registered (hnamed : Registered dispatcher.registry.robots)
    (h : Assigned env dispatcher task now decision robot assignment after) :
    Registered after.registry.robots := by
  intro robotId other hget
  rw [h.robots_eq, Dict.get?_set] at hget
  split_ifs at hget with hsame
  · rw [← Option.some.inj hget, hsame]
    rfl
  · exact hnamed robotId other hget

lemma readable (hreadable : Readable env dispatcher.registry.robots now timeout)
    (h : Assigned env dispatcher task now decision robot assignment after) :
    Readable env after.registry.robots now timeout := by
  intro robotId other hget hidle
  rw [h.robots_eq, Dict.get?_set] at hget
  split_ifs at hget with hsame
  · rw [← Option.some.inj hget] at hidle
    simp [boundTo, RobotRegistry.stamped] at hidle
  · exact hreadable robotId other hget hidle

lemma eligibleRobots_eq (hnamed : Registered dispatcher.registry.robots)
    (hget : dispatcher.registry.robots.get? robot.robotId = some robot)
    (h : Assigned env dispatcher task now decision robot assignment after) :
    eligibleRobots env now timeout after.registry.robots =
      (eligibleRobots env now timeout dispatcher.registry.robots).erase robot := by
  rw [eligibleRobots, h.robots_eq]
  exact Dict.filter_sortedValues_set hnamed hget rfl

lemma free_iff (h : Assigned env dispatcher task now decision robot assignment after)
    (taskId : ℤ) :
    after.board.Free taskId ↔ taskId ≠ task.taskId ∧ dispatcher.board.Free taskId := by
  obtain ⟨utc, id, -, hrecord, -⟩ := h.record
  have hget : after.board.assignments.get? taskId =
      if taskId = task.taskId then some assignment
      else dispatcher.board.assignments.get? taskId := by
    rw [board, h.assignments_eq, Dict.get?_set]
    rfl
  rw [Board.Free, hget]
  split_ifs with hsame
  · simp [hsame, hrecord, draftFor, AssignmentRecord.isActive, activeAssignmentStatuses]
  · simp [hsame, Board.Free]

end Assigned

structure Torn (env : Environment) (dispatcher : FleetDispatcher) (taskId : ℤ)
    (robot : RobotRecord) (after : FleetDispatcher) : Prop where
  robots_eq : after.registry.robots =
    dispatcher.registry.robots.set robot.robotId (boundTo env dispatcher.registry taskId robot)
  assignments_eq : after.assignments = dispatcher.assignments
  events_eq : after.eventSink = dispatcher.eventSink

lemma robot_row_fails (h : Chosen env dispatcher task now timeout penalties decision robot)
    (hdb : dispatcher.registry.host.db.isSome)
    (hw : env.writeFails (dispatcher.registry.host.ticks + 1) = true) :
    ∃ e after, (assignTask env task now timeout penalties).run dispatcher = .error e after ∧
      e.kind ≠ .noAvailableRobot ∧ Torn env dispatcher task.taskId robot after := by
  have hbound := run_onRegistry dispatcher
    (RobotRegistry.assignTask env decision.robotId task.taskId)
  rw [RobotRegistry.run_assignTask_failed env hdb hw h.found h.idle task.taskId] at hbound
  refine ⟨⟨.databaseError, "database write failed"⟩, { dispatcher with
    registry := { dispatcher.registry.ticked.ticked with
      robots := dispatcher.registry.robots.set robot.robotId
        (boundTo env dispatcher.registry task.taskId robot) } }, ?_, by simp, rfl, rfl, rfl⟩
  rw [run_assignTask_chosen h]
  simp only [EStateM.run_bind, hbound]
  rfl

lemma run_bound (h : Chosen env dispatcher task now timeout penalties decision robot)
    (hrobot : dispatcher.registry.host.db.isSome →
      env.writeFails (dispatcher.registry.host.ticks + 1) = false) :
    let bound : RobotRecord := { robot with state := .assigned, currentTaskId := some task.taskId }
    (onRegistry (RobotRegistry.assignTask env decision.robotId task.taskId)).run dispatcher =
      .ok (dispatcher.registry.stamped env bound)
        { dispatcher with registry := dispatcher.registry.put env bound } := by
  rw [run_onRegistry, RobotRegistry.run_assignTask env hrobot h.found h.idle task.taskId]

lemma moment_fails (h : Chosen env dispatcher task now timeout penalties decision robot)
    (hrobot : dispatcher.registry.host.db.isSome →
      env.writeFails (dispatcher.registry.host.ticks + 1) = false)
    (hconverts : ¬ env.Converts now) :
    ∃ e after, (assignTask env task now timeout penalties).run dispatcher = .error e after ∧
      e.kind ≠ .noAvailableRobot ∧ Torn env dispatcher task.taskId robot after := by
  let bound : RobotRecord := { robot with state := .assigned, currentTaskId := some task.taskId }
  obtain ⟨e, he⟩ := Environment.not_converts hconverts
  refine ⟨e, { dispatcher with registry := dispatcher.registry.put env bound }, ?_, ?_, ?_,
    rfl, rfl⟩
  · rw [run_assignTask_chosen h]
    simp only [EStateM.run_bind, run_bound h hrobot, he, run_orRaise_error, bound]
  · rcases Environment.kind_of_astimezone he with hkind | hkind <;> simp [hkind]
  · simp [bound, boundTo]

lemma run_persistAssignment_failed {registry : RobotRegistry} {drafted : AssignmentRecord}
    (hid : drafted.id = 0)
    (hfails : env.writeFails registry.host.ticks = true ∨
      env.readFails (registry.host.ticks + 1) = true) :
    ∃ e kept, (persistAssignment env drafted).run registry = .error e kept ∧
      e.kind = .databaseError ∧ kept.robots = registry.robots := by
  cases hw : env.writeFails registry.host.ticks with
  | true =>
    refine ⟨⟨.databaseError, "database write failed"⟩, registry.ticked, ?_, rfl, rfl⟩
    simp [persistAssignment, hid, RobotRegistry.run_writeDb_failed env hw]
  | false =>
    have hread := hfails.resolve_left (by simp [hw])
    refine ⟨⟨.databaseError, "database read failed"⟩, registry.written (insertRow drafted), ?_,
      rfl, rfl⟩
    simp [persistAssignment, hid, RobotRegistry.run_writeDb env hw, fetchAssignmentById,
      RobotRegistry.written, hread]

lemma assignment_row_fails (h : Chosen env dispatcher task now timeout penalties decision robot)
    (hdb : dispatcher.registry.host.db.isSome)
    (hrobot : env.writeFails (dispatcher.registry.host.ticks + 1) = false)
    (hconverts : env.Converts now)
    (hfails : env.writeFails (dispatcher.registry.host.ticks + 2) = true ∨
      env.readFails (dispatcher.registry.host.ticks + 3) = true) :
    ∃ e after, (assignTask env task now timeout penalties).run dispatcher = .error e after ∧
      e.kind ≠ .noAvailableRobot ∧ Torn env dispatcher task.taskId robot after := by
  let bound : RobotRecord := { robot with state := .assigned, currentTaskId := some task.taskId }
  obtain ⟨utc, hutc⟩ := hconverts
  have hsome : (dispatcher.registry.put env bound).host.db.isSome = true := by
    rw [RobotRegistry.put, RobotRegistry.stored_db_isSome]
    exact hdb
  have hdraft : (draftFor env task decision utc).id = 0 := rfl
  have hlate : env.writeFails (dispatcher.registry.put env bound).host.ticks = true ∨
      env.readFails ((dispatcher.registry.put env bound).host.ticks + 1) = true := by
    rw [put_ticks hdb]
    exact hfails
  obtain ⟨e, kept, hpersist, hkind, hkept⟩ := run_persistAssignment_failed hdraft hlate
  refine ⟨e, { dispatcher with registry := kept }, ?_, by simp [hkind], ?_, rfl, rfl⟩
  · rw [run_assignTask_chosen h]
    simp only [EStateM.run_bind, run_bound h fun _ => hrobot, hutc, run_orRaise_ok,
      EStateM.run_get]
    rw [if_pos hsome]
    have hrun := run_onRegistry { dispatcher with registry := dispatcher.registry.put env bound }
      (persistAssignment env (draftFor env task decision utc))
    simp only [hpersist] at hrun
    simp only [EStateM.run_bind, bound] at hrun ⊢
    rw [hrun]
  · simp [hkept, bound, boundTo]

lemma torn_of_interrupted (h : Chosen env dispatcher task now timeout penalties decision robot)
    (hfails : ¬ Uninterrupted env dispatcher now) :
    ∃ e after, (assignTask env task now timeout penalties).run dispatcher = .error e after ∧
      e.kind ≠ .noAvailableRobot ∧ Torn env dispatcher task.taskId robot after := by
  by_cases hrobot : dispatcher.registry.host.db.isSome →
      env.writeFails (dispatcher.registry.host.ticks + 1) = false
  · by_cases hconverts : env.Converts now
    · have hrow : ¬ (dispatcher.registry.host.db.isSome →
          env.writeFails (dispatcher.registry.host.ticks + 2) = false ∧
            env.readFails (dispatcher.registry.host.ticks + 3) = false) :=
        fun hrow => hfails ⟨hrobot, hconverts, hrow⟩
      rw [Classical.not_imp, not_and_or, Bool.not_eq_false, Bool.not_eq_false] at hrow
      exact assignment_row_fails h hrow.1 (hrobot hrow.1) hconverts hrow.2
    · exact moment_fails h hrobot hconverts
  · rw [Classical.not_imp, Bool.not_eq_false] at hrobot
    exact robot_row_fails h hrobot.1 hrobot.2

/-- The ways in which the call ends for a task that has no active assignment. -/
inductive AssignEnds (env : Environment) (dispatcher : FleetDispatcher) (task : DispatchTask)
    (now : Datetime) (timeout : Floating) (penalties : Dict String ℚ) :
    EStateM.Result FleetError FleetDispatcher AssignmentRecord → Prop
  | unreadable {e : FleetError} :
      selectRobot env dispatcher.registry task now timeout penalties = .error e →
      AssignEnds env dispatcher task now timeout penalties (.error e dispatcher)
  | unavailable {message : String} :
      selectRobot env dispatcher.registry task now timeout penalties = .ok none →
      AssignEnds env dispatcher task now timeout penalties
        (.error ⟨.noAvailableRobot, message⟩ dispatcher)
  | torn {decision : DispatchDecision} {robot : RobotRecord} {e : FleetError}
      {after : FleetDispatcher} :
      Chosen env dispatcher task now timeout penalties decision robot →
      ¬ Uninterrupted env dispatcher now → e.kind ≠ .noAvailableRobot →
      Torn env dispatcher task.taskId robot after →
      AssignEnds env dispatcher task now timeout penalties (.error e after)
  | assigned {decision : DispatchDecision} {robot : RobotRecord} {assignment : AssignmentRecord}
      {after : FleetDispatcher} :
      Chosen env dispatcher task now timeout penalties decision robot →
      Assigned env dispatcher task now decision robot assignment after →
      AssignEnds env dispatcher task now timeout penalties (.ok assignment after)

variable (env now timeout penalties) in
lemma assignEnds (hfree : dispatcher.board.Free task.taskId) :
    AssignEnds env dispatcher task now timeout penalties
      ((assignTask env task now timeout penalties).run dispatcher) := by
  cases hselect : selectRobot env dispatcher.registry task now timeout penalties with
  | error e =>
    have hrun : (assignTask env task now timeout penalties).run dispatcher =
        .error e dispatcher := by
      rw [assignTask]
      simp [getAssignmentForTask_eq_none.mpr hfree, hselect]
    rw [hrun]
    exact .unreadable hselect
  | ok choice =>
    cases choice with
    | none =>
      have hrun : (assignTask env task now timeout penalties).run dispatcher =
          .error ⟨.noAvailableRobot,
            s!"No available robot can accept task {task.taskId} to {task.pickupStation}."⟩
            dispatcher := by
        rw [assignTask]
        simp [getAssignmentForTask_eq_none.mpr hfree, hselect]
      rw [hrun]
      exact .unavailable hselect
    | some decision =>
      obtain ⟨robot, hget, hidle⟩ := idle_of_selectRobot hselect
      have hchosen : Chosen env dispatcher task now timeout penalties decision robot :=
        ⟨hfree, hselect, hget, hidle⟩
      by_cases hclear : Uninterrupted env dispatcher now
      · obtain ⟨assignment, after, hrun, hassigned⟩ :=
          (ends_assignTask_chosen hchosen hclear).run_ok
        rw [hrun]
        exact .assigned hchosen hassigned
      · obtain ⟨e, after, hrun, hkind, htorn⟩ := torn_of_interrupted hchosen hclear
        rw [hrun]
        exact .torn hchosen hclear hkind htorn

end Runs

end FleetDispatcher

section Atomicity

variable {env : Environment} {dispatcher : FleetDispatcher} {task : DispatchTask} {now : Datetime}
  {timeout : Floating} {penalties : Dict String ℚ}

open FleetDispatcher

lemma normal_supported : "normal" ∈ taskPriorities := by
  decide

def toShelf (taskId : ℤ) : DispatchTask := ⟨taskId, "shelf", none, "normal", normal_supported⟩

end Atomicity

end Fleet
