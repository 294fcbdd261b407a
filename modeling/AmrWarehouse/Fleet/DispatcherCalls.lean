import AmrWarehouse.Fleet.Board
import AmrWarehouse.Fleet.RegistryCalls

/-! What each dispatcher call does to the records and the assignments, with or without a database
behind them. -/

namespace Fleet

open Library

def rowIsActive (row : AssignmentRow) : Prop :=
  row.status ∈ activeAssignmentStatuses.map AssignmentStatus.value

lemma rowIsActive_toRow (assignment : AssignmentRecord) :
    rowIsActive assignment.toRow ↔ assignment.isActive := by
  obtain ⟨_, _, _, _, _, _, status, _, _⟩ := assignment
  cases status <;> simp [rowIsActive, AssignmentRecord.isActive, AssignmentRecord.toRow,
    activeAssignmentStatuses, AssignmentStatus.value]

lemma overwrite_taskId (values row : AssignmentRow) : (values.overwrite row).taskId = row.taskId :=
  rfl

/-- The tables hold what the dispatcher and its registry have in memory. Every row can be read, and
of the rows of a task only the last may be active. -/
structure Mirrors (db : FleetDb) (robots : Dict String RobotRecord)
    (assignments : Dict ℤ AssignmentRecord) : Prop where
  robots_eq : ∀ robotId, db.robots.get? robotId = (robots.get? robotId).map RobotRecord.toRow
  latest_eq : ∀ taskId, db.assignments.latest AssignmentRow.taskId taskId =
    (assignments.get? taskId).map (fun assignment => (assignment.id, assignment.toRow))
  superseded : ∀ row ∈ db.assignments.rows, rowIsActive row.2 →
    ∃ assignment, assignments.get? row.2.taskId = some assignment ∧ assignment.id = row.1
  readable : ∀ row ∈ db.assignments.rows,
    ∃ assignment : AssignmentRecord, (assignment.id, assignment.toRow) = row

namespace Mirrors

variable {db : FleetDb} {robots : Dict String RobotRecord} {assignments : Dict ℤ AssignmentRecord}

lemma setRobot (h : Mirrors db robots assignments) (robot : RobotRecord) :
    Mirrors { db with robots := db.robots.set robot.robotId robot.toRow }
      (robots.set robot.robotId robot) assignments where
  robots_eq robotId := by
    simp only [Dict.get?_set, h.robots_eq]
    split <;> rfl
  latest_eq := h.latest_eq
  superseded := h.superseded
  readable := h.readable

lemma row_of_assignment (h : Mirrors db robots assignments) {taskId : ℤ}
    {assignment : AssignmentRecord} (hget : assignments.get? taskId = some assignment) :
    (assignment.id, assignment.toRow) ∈ db.assignments.rows ∧ assignment.taskId = taskId := by
  have hl := h.latest_eq taskId
  rw [hget] at hl
  exact AutoTable.mem_of_latest hl

lemma insertAssignment (h : Mirrors db robots assignments) (drafted : AssignmentRecord)
    (hfree : ∀ assignment, assignments.get? drafted.taskId = some assignment →
      assignment.isActive = false) :
    Mirrors (insertRow drafted db) robots
      (assignments.set drafted.taskId { drafted with id := db.assignments.lastId + 1 }) where
  robots_eq := h.robots_eq
  latest_eq taskId := by
    simp only [insertRow, AutoTable.latest_insert, Dict.get?_set, h.latest_eq]
    by_cases ht : taskId = drafted.taskId
    · simp [ht, AssignmentRecord.toRow]
    · have ht' : drafted.toRow.taskId ≠ taskId := fun h => ht h.symm
      simp [ht, ht']
  superseded row hrow hactive := by
    rcases List.mem_append.mp hrow with hold | hnew
    · obtain ⟨assignment, hget, hid⟩ := h.superseded row hold hactive
      have hne : row.2.taskId ≠ drafted.taskId := by
        intro ht
        have hrow' := (h.row_of_assignment hget).1
        have heq := AutoTable.eq_of_mem_of_id hrow' hold hid
        rw [← heq, rowIsActive_toRow] at hactive
        rw [hfree assignment (ht ▸ hget)] at hactive
        exact absurd hactive (by simp)
      exact ⟨assignment, by rw [Dict.get?_set_of_ne _ _ hne, hget], hid⟩
    · rw [List.mem_singleton.mp hnew]
      exact ⟨_, Dict.get?_set_self _ _ _, rfl⟩
  readable row hrow := by
    rcases List.mem_append.mp hrow with hold | hnew
    · exact h.readable row hold
    · rw [List.mem_singleton.mp hnew]
      exact ⟨{ drafted with id := db.assignments.lastId + 1 }, rfl⟩

lemma updateAssignment (h : Mirrors db robots assignments) {taskId : ℤ}
    {assignment changed : AssignmentRecord} (hget : assignments.get? taskId = some assignment)
    (hid : changed.id = assignment.id) (htask : changed.taskId = assignment.taskId) :
    Mirrors (updateRow changed db) robots (assignments.set taskId changed) where
  robots_eq := h.robots_eq
  latest_eq other := by
    obtain ⟨hrow, hown⟩ := h.row_of_assignment hget
    change (db.assignments.update changed.id changed.toRow.overwrite).latest _ other = _
    rw [AutoTable.latest_update _ _ _ _ _ (overwrite_taskId changed.toRow), h.latest_eq,
      Dict.get?_set]
    by_cases ho : other = taskId
    · subst other
      simp [hget, AutoTable.updateRow, hid, AssignmentRow.overwrite, AssignmentRecord.toRow, htask]
    · rw [if_neg ho]
      cases hother : assignments.get? other with
      | none => rfl
      | some held =>
        have hne : held.id ≠ changed.id := by
          intro he
          obtain ⟨hrow', hown'⟩ := h.row_of_assignment hother
          have heq := AutoTable.eq_of_mem_of_id hrow' hrow (he.trans hid)
          have htasks := congrArg (fun r => r.2.taskId) heq
          exact ho (hown'.symm.trans (htasks.trans hown))
        simp [AutoTable.updateRow, hne]
  superseded row hrow hactive := by
    obtain ⟨hmem, hown⟩ := h.row_of_assignment hget
    obtain ⟨old, hold, rfl⟩ := List.mem_map.mp hrow
    by_cases ho : old.1 = changed.id
    · have heq := AutoTable.eq_of_mem_of_id hold hmem (ho.trans hid)
      refine ⟨changed, ?_, by simp [ho]⟩
      have ht : (AutoTable.updateRow changed.id changed.toRow.overwrite old).2.taskId = taskId := by
        rw [AutoTable.updateRow_key _ _ _ (overwrite_taskId changed.toRow), heq]
        exact hown
      rw [ht, Dict.get?_set_self]
    · have hsame : AutoTable.updateRow changed.id changed.toRow.overwrite old = old := by
        simp [AutoTable.updateRow, ho]
      rw [hsame] at hactive ⊢
      obtain ⟨held, hheld, hheldid⟩ := h.superseded old hold hactive
      have hne : old.2.taskId ≠ taskId := by
        intro ht
        rw [ht, hget] at hheld
        rw [← Option.some.inj hheld] at hheldid
        exact ho (hheldid.symm.trans hid.symm)
      exact ⟨held, by rw [Dict.get?_set_of_ne _ _ hne, hheld], hheldid⟩
  readable row hrow := by
    obtain ⟨old, hold, rfl⟩ := List.mem_map.mp hrow
    obtain ⟨record, rfl⟩ := h.readable old hold
    rw [AutoTable.updateRow]
    split
    · exact ⟨{ changed with id := record.id, taskId := record.taskId }, rfl⟩
    · exact ⟨record, rfl⟩

end Mirrors

namespace FleetDispatcher

def board (dispatcher : FleetDispatcher) : Board :=
  ⟨dispatcher.registry.robots, dispatcher.assignments⟩

/-- There is no database, or it takes every write and holds what is in memory. -/
def Backed (env : Environment) (dispatcher : FleetDispatcher) : Prop :=
  ∀ db, dispatcher.registry.host.db = some db →
    env.Reliable ∧ Mirrors db dispatcher.registry.robots dispatcher.assignments

structure SameBoard (before after : FleetDispatcher) : Prop where
  board_eq : after.board = before.board
  db_eq : after.registry.host.db = before.registry.host.db

section Runs

variable {env : Environment} {dispatcher : FleetDispatcher}

lemma Backed.dependable (hb : dispatcher.Backed env) : dispatcher.registry.Dependable env := by
  intro h
  obtain ⟨db, hdb⟩ := Option.isSome_iff_exists.mp h
  exact (hb db hdb).1

lemma SameBoard.backed {after : FleetDispatcher} (h : SameBoard dispatcher after)
    (hb : dispatcher.Backed env) : after.Backed env := by
  intro db hdb
  rw [h.db_eq] at hdb
  have hboard := h.board_eq
  simp only [board, Board.mk.injEq] at hboard
  rw [hboard.1, hboard.2]
  exact hb db hdb

lemma Backed.stored (hb : dispatcher.Backed env) (kept : RobotRegistry)
    (hrobots : kept.robots = dispatcher.registry.robots)
    (hdb : kept.host.db = dispatcher.registry.host.db) (robot : RobotRecord) :
    Backed env { dispatcher with registry := kept.stored robot } := by
  intro db hstored
  cases hold : dispatcher.registry.host.db with
  | none => simp [RobotRegistry.stored, hdb, hold] at hstored
  | some old =>
    obtain ⟨hrel, hm⟩ := hb old hold
    simp only [RobotRegistry.stored, hdb, hold, Option.isSome_some, if_true,
      RobotRegistry.written, Option.map_some, Option.some.injEq] at hstored
    subst hstored
    refine ⟨hrel, ?_⟩
    rw [RobotRegistry.stored_robots, hrobots]
    exact hm.setRobot robot

lemma Backed.put (hb : dispatcher.Backed env) (robot : RobotRecord) :
    Backed env { dispatcher with registry := dispatcher.registry.put env robot } :=
  hb.stored dispatcher.registry.ticked rfl rfl _

lemma run_onRegistry {α : Type} (dispatcher : FleetDispatcher) (call : Call RobotRegistry α) :
    (onRegistry call).run dispatcher =
      match call.run dispatcher.registry with
      | .ok a registry => .ok a { dispatcher with registry := registry }
      | .error e registry => .error e { dispatcher with registry := registry } := by
  cases h : call.run dispatcher.registry <;> simp [onRegistry, run_focus, h]

lemma ends_emitEvent {event : String}
    {taskId : Option ℤ} {robotId reason timestamp : Option String}
    {Q : FleetEvent → FleetDispatcher → Prop} {E : FleetDispatcher → Prop}
    (hq : ∀ fleetEvent after, SameBoard dispatcher after → Q fleetEvent after) :
    Ends (emitEvent env event taskId robotId reason timestamp) dispatcher Q E := by
  obtain ⟨ts, kept, hrun, hrobots, hdb⟩ :=
    RobotRegistry.run_orNow env dispatcher.registry timestamp
  have hon := run_onRegistry dispatcher (RobotRegistry.orNow env timestamp)
  rw [hrun] at hon
  simp only [emitEvent, ends_bind]
  apply ends_of_ok hon
  simp only [ends_modify, ends_pure]
  apply hq
  constructor
  · simp [board, hrobots]
  · exact hdb

lemma run_persistAssignment_new {registry : RobotRegistry} {db : FleetDb}
    (hw : env.writeFails registry.host.ticks = false)
    (hr : env.readFails (registry.host.ticks + 1) = false) (hdb : registry.host.db = some db)
    {drafted : AssignmentRecord} (hid : drafted.id = 0) :
    (persistAssignment env drafted).run registry =
      .ok { drafted with id := db.assignments.lastId + 1 }
        (registry.written (insertRow drafted)) := by
  have hback := rowToAssignment_toRow { drafted with id := db.assignments.lastId + 1 }
  have hrow : AssignmentRecord.toRow { drafted with id := db.assignments.lastId + 1 } =
    drafted.toRow := rfl
  rw [hrow] at hback
  have hfind : (insertRow drafted db).assignments.find? (db.assignments.lastId + 1) =
    some drafted.toRow := db.assignments.find?_insert_self drafted.toRow
  have hlast : (insertRow drafted db).assignments.lastId = db.assignments.lastId + 1 := rfl
  simp [persistAssignment, hid, RobotRegistry.run_writeDb env hw, fetchAssignmentById,
    RobotRegistry.written, hr, hdb, hlast, hfind, hback]

lemma run_persistAssignment_old (hrel : env.Reliable) {registry : RobotRegistry} {db : FleetDb}
    (hdb : registry.host.db = some db) {changed : AssignmentRecord} {row : AssignmentRow}
    (hrow : (changed.id, row) ∈ db.assignments.rows) (htask : row.taskId = changed.taskId) :
    (persistAssignment env changed).run registry =
      .ok changed
        (registry.written (updateRow changed)) := by
  have hid : changed.id ≠ 0 := by
    have hpos := (db.assignments.bounded _ hrow).1
    exact Nat.ne_of_gt hpos
  have hover : changed.toRow.overwrite row = changed.toRow := by
    simp [AssignmentRow.overwrite, htask, AssignmentRecord.toRow]
  have hfind := AutoTable.find?_update_of_mem changed.toRow.overwrite hrow
  simp only [hover] at hfind
  simp [persistAssignment, hid, RobotRegistry.run_writeDb env (hrel.writes _), fetchAssignmentById,
    RobotRegistry.written, hrel.reads, hdb, updateRow, hfind]

lemma run_setAssignmentStatus (hb : dispatcher.Backed env) {taskId : ℤ}
    {assignment : AssignmentRecord} (hget : dispatcher.assignments.get? taskId = some assignment)
    (status : AssignmentStatus) (timestamp : Option String) :
    ∃ updated after, (setAssignmentStatus env taskId status timestamp).run dispatcher =
        .ok updated after ∧
      updated.status = status ∧ updated.robotId = assignment.robotId ∧
      updated.taskId = assignment.taskId ∧
      after.board = ⟨dispatcher.registry.robots, dispatcher.assignments.set taskId updated⟩ ∧
      after.Backed env := by
  obtain ⟨ts, kept, hrun, hrobots, hdb⟩ :=
    RobotRegistry.run_orNow env dispatcher.registry timestamp
  let changed : AssignmentRecord := { assignment with status := status, updatedAt := ts }
  cases hold : dispatcher.registry.host.db with
  | none =>
    refine ⟨changed,
      { dispatcher with
        registry := kept
        assignments := dispatcher.assignments.set taskId changed },
      ?_, rfl, rfl, rfl, by simp [board, hrobots], ?_⟩
    · simp [setAssignmentStatus, hget, run_onRegistry, hrun, hdb, hold, changed]
    · intro db h
      simp [hdb, hold] at h
  | some db =>
    obtain ⟨hrel, hm⟩ := hb db hold
    obtain ⟨hrow, hown⟩ := hm.row_of_assignment hget
    have hpersist : (persistAssignment env changed).run kept =
        .ok changed (kept.written (updateRow changed)) :=
      run_persistAssignment_old hrel (hdb.trans hold) hrow rfl
    refine ⟨changed,
      { dispatcher with
        registry := kept.written (updateRow changed)
        assignments := dispatcher.assignments.set taskId changed },
      ?_, rfl, rfl, rfl, by simp [board, hrobots], ?_⟩
    · simp [setAssignmentStatus, hget, run_onRegistry, hrun, hdb, hold, changed, hpersist]
    · intro db' h
      simp only [RobotRegistry.written, hdb, hold, Option.map_some, Option.some.injEq] at h
      subst h
      refine ⟨hrel, ?_⟩
      simp only [RobotRegistry.written_robots, hrobots]
      exact hm.updateAssignment hget rfl rfl

end Runs

section Assignment

variable {dispatcher : FleetDispatcher}
  {env : Environment} {registry : RobotRegistry} {task : DispatchTask} {now : Datetime}
  {timeout : Floating} {penalties : Dict String ℚ}

lemma idle_of_canAcceptTask {robotId : String} {moment : Option Datetime}
    (h : registry.canAcceptTask env robotId moment timeout = .ok true) :
    ∃ robot, registry.robots.get? robotId = some robot ∧ robot.state = .idle := by
  rw [RobotRegistry.canAcceptTask] at h
  cases hget : registry.robots.get? robotId with
  | none => simp [hget] at h
  | some robot =>
    refine ⟨robot, rfl, ?_⟩
    by_contra hidle
    have hstate : robot.state ∉ dispatchableStates := by simpa [dispatchableStates] using hidle
    simp only [hget, hstate, not_false_eq_true, if_true] at h
    split_ifs at h <;> simp at h

lemma accepts_of_candidate {robot : RobotRecord} {best : DispatchCandidate}
    (h : candidate? env registry task now timeout penalties robot = .ok (some best)) :
    registry.canAcceptTask env best.robotId (some now) timeout = .ok true := by
  rw [candidate?] at h
  cases haccepts : registry.canAcceptTask env robot.robotId (some now) timeout with
  | error e => simp [haccepts, bind, Except.bind] at h
  | ok accepts =>
    cases accepts with
    | false => simp [haccepts, bind, Except.bind, pure, Except.pure] at h
    | true =>
      simp only [haccepts, bind, Except.bind, if_true] at h
      split at h
      · simp only [pure, Except.pure, Except.ok.injEq, Option.some.injEq] at h
        rw [← h]
        exact haccepts
      · split_ifs at h
        simp [pure, Except.pure] at h

lemma idle_of_selectRobot {decision : DispatchDecision}
    (h : selectRobot env registry task now timeout penalties = .ok (some decision)) :
    ∃ robot, registry.robots.get? decision.robotId = some robot ∧ robot.state = .idle := by
  rw [selectRobot, listCandidates] at h
  cases hfound : registry.listRobots.mapM
      (candidate? env registry task now timeout penalties) with
  | error e => simp [hfound, bind, Except.bind] at h
  | ok found =>
    simp only [hfound, bind, Except.bind, pure, Except.pure] at h
    split at h
    · simp at h
    · rename_i best others hsorted
      have hbest : best ∈ (found.filterMap id).insertionSort before := by
        rw [hsorted]
        exact List.mem_cons_self
      rw [List.mem_insertionSort, List.mem_filterMap] at hbest
      obtain ⟨entry, hentry, rfl⟩ := hbest
      obtain ⟨robot, _, hrobot⟩ := exists_of_mem_mapM hfound hentry
      simp only [Except.ok.injEq, Option.some.injEq] at h
      rw [← h]
      exact idle_of_canAcceptTask (accepts_of_candidate hrobot)

lemma getAssignmentForTask_eq_none {taskId : ℤ} :
    dispatcher.getAssignmentForTask taskId = none ↔ dispatcher.board.Free taskId := by
  simp only [getAssignmentForTask, Board.Free, board]
  cases dispatcher.assignments.get? taskId <;> simp [Option.filter]

lemma ends_persistDraft {α : Type} (hb : dispatcher.Backed env) {drafted : AssignmentRecord}
    (hid : drafted.id = 0) (hfree : dispatcher.board.Free drafted.taskId)
    {next : AssignmentRecord → Call FleetDispatcher α} {Q : α → FleetDispatcher → Prop}
    {E : FleetDispatcher → Prop}
    (hq : ∀ (id : ℕ) (kept : FleetDispatcher), kept.board = dispatcher.board →
      Backed env { kept with
        assignments := kept.assignments.set drafted.taskId { drafted with id := id } } →
      Ends (next { drafted with id := id }) kept Q E) :
    Ends (if dispatcher.registry.host.db.isSome then
        onRegistry (persistAssignment env drafted) >>= next
      else pure drafted >>= next) dispatcher Q E := by
  cases hdb : dispatcher.registry.host.db with
  | none =>
    have hnone : Backed env { dispatcher with
        assignments := dispatcher.assignments.set drafted.taskId { drafted with id := 0 } } := by
      intro db h
      simp [hdb] at h
    have hsame : { drafted with id := 0 } = drafted := by rw [← hid]
    have hq0 := hq 0 dispatcher rfl hnone
    rw [hsame] at hq0
    simpa using hq0
  | some db =>
    obtain ⟨hrel, hm⟩ := hb db hdb
    have hrun := run_onRegistry dispatcher (persistAssignment env drafted)
    rw [run_persistAssignment_new (hrel.writes _) (hrel.reads _) hdb hid] at hrun
    simp only [Option.isSome_some, if_true, ends_bind]
    apply ends_of_ok hrun
    refine hq _ { dispatcher with
      registry := dispatcher.registry.written (insertRow drafted) } rfl ?_
    intro db' h
    simp only [RobotRegistry.written, hdb, Option.map_some, Option.some.injEq] at h
    subst h
    exact ⟨hrel, hm.insertAssignment drafted hfree⟩

lemma takes_put {registry : RobotRegistry} (hc : Consistent registry.robots) {robotId : String}
    {robot : RobotRecord} (hget : registry.robots.get? robotId = some robot)
    (hidle : robot.state = .idle) (taskId : ℤ) :
    Takes registry.robots
      (registry.put env { robot with state := .assigned, currentTaskId := some taskId }).robots
      robotId taskId := by
  have hname : robot.robotId = robotId := hc.named hget
  rw [RobotRegistry.put_robots]
  dsimp only
  rw [hname]
  exact ⟨robot, _, hget, hidle, hname.symm, rfl, rfl, rfl⟩

lemma ends_assignTask (hb : dispatcher.Backed env)
    (hc : Consistent dispatcher.registry.robots)
    (hcan : dispatcher.board.CanAssign env task now timeout penalties)
    (hconverts : env.Converts now) :
    Ends (assignTask env task now timeout penalties) dispatcher
      (fun assignment after => Binds dispatcher.board after.board task.taskId assignment ∧
        after.Backed env)
      (fun _ => False) := by
  obtain ⟨hfree, decision, hselect⟩ := hcan
  have hsel : selectRobot env dispatcher.registry task now timeout penalties =
    .ok (some decision) := hselect
  obtain ⟨robot, hget, hidle⟩ := idle_of_selectRobot hsel
  have hbind := RobotRegistry.run_assignTask env (fun h => (hb.dependable h).writes _) hget hidle
    task.taskId
  have hnone := getAssignmentForTask_eq_none.mpr hfree
  rw [assignTask]
  simp only [ends_bind, ends_get, hnone, hsel, ends_orRaise_ok]
  have hrun := run_onRegistry dispatcher
    (RobotRegistry.assignTask env decision.robotId task.taskId)
  rw [hbind] at hrun
  apply ends_of_ok hrun
  obtain ⟨utc, hutc⟩ := hconverts
  rw [hutc, ends_orRaise_ok]
  refine ends_persistDraft (hb.put _) rfl ?_ ?_
  · exact hfree
  intro id kept hkept hbacked
  simp only [ends_bind, ends_modify]
  apply ends_emitEvent
  intro fleetEvent after hsame
  refine ⟨?_, hsame.backed hbacked⟩
  simp only [board, Board.mk.injEq] at hkept
  rw [hsame.board_eq]
  refine ⟨hfree, rfl, rfl, ?_, ?_⟩
  · simp [board, hkept.2]
  · simpa [board, hkept.1] using takes_put hc hget hidle task.taskId

lemma run_assignTask_orphans (hb : dispatcher.Backed env)
    (hc : Consistent dispatcher.registry.robots)
    (hcan : dispatcher.board.CanAssign env task now timeout penalties)
    (hconverts : ¬ env.Converts now) :
    ∃ e after, (assignTask env task now timeout penalties).run dispatcher = .error e after ∧
      e.kind ≠ .noAvailableRobot ∧ Orphans dispatcher.board after.board task.taskId ∧
      after.Backed env := by
  obtain ⟨hfree, decision, hselect⟩ := hcan
  have hsel : selectRobot env dispatcher.registry task now timeout penalties =
    .ok (some decision) := hselect
  obtain ⟨robot, hget, hidle⟩ := idle_of_selectRobot hsel
  have hnone := getAssignmentForTask_eq_none.mpr hfree
  obtain ⟨e, he⟩ := Environment.not_converts hconverts
  have hrun := run_onRegistry dispatcher
    (RobotRegistry.assignTask env decision.robotId task.taskId)
  rw [RobotRegistry.run_assignTask env (fun h => (hb.dependable h).writes _) hget hidle] at hrun
  let bound : RobotRecord := { robot with state := .assigned, currentTaskId := some task.taskId }
  refine ⟨e, { dispatcher with registry := dispatcher.registry.put env bound }, ?_, ?_,
    ⟨hfree, rfl, decision.robotId, takes_put hc hget hidle task.taskId⟩, hb.put _⟩
  · simp [assignTask, hnone, hsel, hrun, he, bound]
  · rcases Environment.kind_of_astimezone he with hkind | hkind <;> simp [hkind]

lemma run_assignTask_refused
    (hcan : ¬ dispatcher.board.CanAssign env task now timeout penalties) :
    ∃ e, (assignTask env task now timeout penalties).run dispatcher = .error e dispatcher := by
  rw [assignTask]
  cases hheld : dispatcher.getAssignmentForTask task.taskId with
  | some existing => simp [hheld]
  | none =>
    have hfree := getAssignmentForTask_eq_none.mp hheld
    have hselect : ∀ decision, selectRobot env dispatcher.registry task now timeout penalties ≠
        .ok (some decision) := fun decision h => hcan ⟨hfree, decision, h⟩
    simp only [EStateM.run_bind, EStateM.run_get, hheld]
    cases hs : selectRobot env dispatcher.registry task now timeout penalties with
    | error e => exact ⟨e, by simp⟩
    | ok choice =>
      cases choice with
      | none => simp
      | some decision => exact absurd hs (hselect decision)

def BindsSome (tasks : List DispatchTask) : Board → Board → Prop :=
  Relation.ReflTransGen fun before after =>
    ∃ task ∈ tasks, ∃ assignment, Binds before after task.taskId assignment

lemma BindsSome.mono {tasks more : List DispatchTask} (h : ∀ task ∈ tasks, task ∈ more)
    {before after : Board} (hb : BindsSome tasks before after) : BindsSome more before after := by
  refine Relation.ReflTransGen.mono ?_ before after hb
  rintro _ _ ⟨task, htask, hbinds⟩
  exact ⟨task, h task htask, hbinds⟩

/-- A call that raised because the moment has no UTC datetime has put one robot on a task. -/
def OrphansOne (env : Environment) (now : Datetime) (tasks : List DispatchTask)
    (before after : Board) : Prop :=
  ¬ env.Converts now ∧ ∃ task ∈ tasks, Orphans before after task.taskId

lemma ends_dispatchLoop (hb : dispatcher.Backed env) (hc : Consistent dispatcher.registry.robots)
    (tasks : List DispatchTask) :
    Ends (dispatchLoop env now timeout penalties tasks) dispatcher
      (fun _ after => BindsSome tasks dispatcher.board after.board ∧ after.Backed env)
      (fun after => (BindsSome tasks dispatcher.board after.board ∨
        OrphansOne env now tasks dispatcher.board after.board) ∧ after.Backed env) := by
  induction tasks generalizing dispatcher with
  | nil => exact ⟨.refl, hb⟩
  | cons task tasks ih =>
    have htail : ∀ later ∈ tasks, later ∈ task :: tasks :=
      fun later hlater => List.mem_cons_of_mem task hlater
    simp only [dispatchLoop, ends_bind, ends_get]
    split_ifs with hheld
    · apply (ih hb hc).mono
      · rintro _ after ⟨hsome, hafter⟩
        exact ⟨hsome.mono htail, hafter⟩
      · rintro after ⟨hsome | ⟨hnot, later, hlater, horphans⟩, hafter⟩
        · exact ⟨.inl (hsome.mono htail), hafter⟩
        · exact ⟨.inr ⟨hnot, later, htail later hlater, horphans⟩, hafter⟩
    rw [ends_bind]
    by_cases hcan : dispatcher.board.CanAssign env task now timeout penalties
    · by_cases hconverts : env.Converts now
      · apply ends_attempt_of_ok
        apply (ends_assignTask hb hc hcan hconverts).mono
        · rintro assignment middle ⟨hbinds, hmiddle⟩
          have hfirst : BindsSome (task :: tasks) dispatcher.board middle.board :=
            .single ⟨task, List.mem_cons_self, assignment, hbinds⟩
          simp only [ends_bind, ends_pure]
          apply (ih hmiddle (hbinds.consistent hc)).mono
          · rintro _ after ⟨hsome, hafter⟩
            exact ⟨hfirst.trans (hsome.mono htail), hafter⟩
          · rintro after ⟨hsome | ⟨hnot, _⟩, hafter⟩
            · exact ⟨.inl (hfirst.trans (hsome.mono htail)), hafter⟩
            · exact absurd hconverts hnot
        · exact fun _ h => h.elim
      · obtain ⟨e, after, hrun, hkind, horphans, hafter⟩ :=
          run_assignTask_orphans hb hc hcan hconverts
        apply ends_attempt_of_error hrun
        dsimp only
        rw [if_neg hkind]
        exact ⟨.inr ⟨hconverts, task, List.mem_cons_self, horphans⟩, hafter⟩
    · obtain ⟨e, he⟩ := run_assignTask_refused hcan
      apply ends_attempt_of_error he
      dsimp only
      split_ifs
      · exact ⟨.refl, hb⟩
      · exact ⟨.inl .refl, hb⟩

lemma ends_dispatchTasks (hb : dispatcher.Backed env) (hc : Consistent dispatcher.registry.robots)
    (tasks : List DispatchTask) :
    Ends (dispatchTasks env tasks now timeout penalties) dispatcher
      (fun _ after => BindsSome tasks dispatcher.board after.board ∧ after.Backed env)
      (fun after => (BindsSome tasks dispatcher.board after.board ∨
        OrphansOne env now tasks dispatcher.board after.board) ∧ after.Backed env) := by
  have hmem : ∀ task ∈ tasks.insertionSort earlier, task ∈ tasks :=
    fun task => (List.mem_insertionSort earlier).mp
  apply (ends_dispatchLoop hb hc (tasks.insertionSort earlier)).mono
  · rintro _ after ⟨hsome, hafter⟩
    exact ⟨hsome.mono hmem, hafter⟩
  · rintro after ⟨hsome | ⟨hnot, task, htask, horphans⟩, hafter⟩
    · exact ⟨.inl (hsome.mono hmem), hafter⟩
    · exact ⟨.inr ⟨hnot, task, hmem task htask, horphans⟩, hafter⟩

end Assignment

end FleetDispatcher

end Fleet
