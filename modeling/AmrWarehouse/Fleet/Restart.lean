import AmrWarehouse.Fleet.Upkeep

/-! What a fleet that is opened again on its tables finds there. -/

namespace Fleet

open Library

section Tables

variable {db : FleetDb} {robots : Dict String RobotRecord} {assignments : Dict ℤ AssignmentRecord}

lemma loadRobotsFromDb_ok (h : Mirrors db robots assignments) (hc : Consistent robots) :
    ∃ loaded, loadRobotsFromDb db = .ok loaded ∧
      ∀ robotId, loaded.get? robotId = robots.get? robotId := by
  have hrows : db.robots.sortedValues =
      (db.robots.sortedKeys.filterMap robots.get?).map RobotRecord.toRow := by
    rw [Dict.sortedValues, List.map_filterMap]
    exact List.filterMap_congr fun robotId _ => h.robots_eq robotId
  generalize hlisted : db.robots.sortedKeys.filterMap robots.get? = listed at hrows
  have hmem : ∀ robot ∈ listed, robots.get? robot.robotId = some robot := by
    intro robot hrobot
    rw [← hlisted] at hrobot
    obtain ⟨robotId, _, hget⟩ := List.mem_filterMap.mp hrobot
    rw [hc.named hget, hget]
  have hentries : ((listed.map RobotRecord.toRow).map RobotRow.robotId).zip listed =
      listed.map (fun robot => (robot.robotId, robot)) := by
    rw [List.map_map, ← List.map_prod_right_eq_zip]
    rfl
  refine ⟨Dict.ofList (listed.map fun robot => (robot.robotId, robot)), ?_, ?_⟩
  · rw [loadRobotsFromDb, hrows, mapM_map_ok rowToRobot_toRow]
    simp only [bind, Except.bind, pure, Except.pure, hentries]
  · apply Dict.get?_ofList_eq
    · intro entry hentry
      obtain ⟨robot, hrobot, rfl⟩ := List.mem_map.mp hentry
      exact hmem robot hrobot
    · intro robotId robot hget
      refine List.mem_map.mpr ⟨robot, ?_, by rw [hc.named hget]⟩
      rw [← hlisted, List.mem_filterMap]
      refine ⟨robotId, ?_, hget⟩
      rw [Dict.mem_sortedKeys, h.robots_eq, hget]
      rfl

lemma exists_records (h : Mirrors db robots assignments) :
    ∃ records : List AssignmentRecord,
      db.assignments.rows = records.map (fun record => (record.id, record.toRow)) := by
  have hreadable := h.readable
  generalize db.assignments.rows = rows at hreadable
  induction rows with
  | nil => exact ⟨[], rfl⟩
  | cons row rows ih =>
    obtain ⟨record, hrecord⟩ := hreadable row List.mem_cons_self
    obtain ⟨records, hrecords⟩ := ih fun later hlater =>
      hreadable later (List.mem_cons_of_mem row hlater)
    exact ⟨record :: records, by rw [List.map_cons, hrecord, hrecords]⟩

lemma row_injective :
    Function.Injective (fun record : AssignmentRecord => (record.id, record.toRow)) := by
  intro record other heq
  rw [Prod.mk.injEq] at heq
  have hread := rowToAssignment_toRow record
  rw [heq.1, heq.2, rowToAssignment_toRow other] at hread
  exact (Except.ok.inj hread).symm

lemma loadAssignmentsFromDb_ok (h : Mirrors db robots assignments) :
    ∃ loaded, loadAssignmentsFromDb db = .ok loaded ∧
      ∀ taskId, loaded.get? taskId = assignments.get? taskId := by
  obtain ⟨records, hrows⟩ := exists_records h
  have hentries : ((records.map (fun record => (record.id, record.toRow))).map
      (fun row => row.2.taskId)).zip records =
      records.map (fun record => (record.taskId, record)) := by
    rw [List.map_map, ← List.map_prod_right_eq_zip]
    rfl
  refine ⟨Dict.ofList (records.map fun record => (record.taskId, record)), ?_, ?_⟩
  · rw [loadAssignmentsFromDb, hrows]
    rw [mapM_map_ok (fun record : AssignmentRecord => rowToAssignment_toRow record)]
    simp only [bind, Except.bind, pure, Except.pure, hentries]
  · intro taskId
    have hlatest := h.latest_eq taskId
    rw [AutoTable.latest, hrows, ← List.map_reverse, List.find?_map] at hlatest
    rw [Dict.get?_ofList, ← List.map_reverse, List.find?_map, Option.map_map]
    have hsame := Option.map_injective row_injective hlatest
    simpa [Function.comp_def, AssignmentRecord.toRow] using hsame

lemma Mirrors.active_unique (h : Mirrors db robots assignments) {row other : ℕ × AssignmentRow}
    (hrow : row ∈ db.assignments.rows) (hother : other ∈ db.assignments.rows)
    (hactive : rowIsActive row.2) (hactive' : rowIsActive other.2)
    (htask : row.2.taskId = other.2.taskId) : row = other := by
  obtain ⟨assignment, hget, hid⟩ := h.superseded row hrow hactive
  obtain ⟨held, hheld, hid'⟩ := h.superseded other hother hactive'
  rw [htask, hheld] at hget
  obtain rfl := Option.some.inj hget
  exact AutoTable.eq_of_mem_of_id hrow hother (hid.symm.trans hid')

end Tables

structure Restored (live again : FleetState) : Prop where
  robots_eq : ∀ robotId, again.registry.robots.get? robotId = live.registry.robots.get? robotId
  assignments_eq : ∀ taskId,
    again.dispatcher.assignments.get? taskId = live.dispatcher.assignments.get? taskId

def SingleActive (db : FleetDb) : Prop :=
  ∀ row ∈ db.assignments.rows, ∀ other ∈ db.assignments.rows, rowIsActive row.2 →
    rowIsActive other.2 → row.2.taskId = other.2.taskId → row = other

section Runs

variable {env : Environment}

lemma ends_init {live : FleetState} (h : live.Kept env) :
    Ends (RobotRegistry.init env none true) ⟨Dict.empty, live.registry.host⟩
      (fun _ again => (∀ robotId, again.robots.get? robotId = live.registry.robots.get? robotId) ∧
        again.host = live.registry.host)
      (fun _ => False) := by
  obtain ⟨ticks, db, hhost⟩ : ∃ ticks db, live.registry.host = ⟨ticks, some db⟩ := by
    obtain ⟨db, hdb⟩ := Option.isSome_iff_exists.mp h.tabled
    exact ⟨_, db, by rw [← hdb]; rfl⟩
  have hm := (h.backed db (congrArg Host.db hhost)).2
  obtain ⟨robots, hrobots, hsame⟩ := loadRobotsFromDb_ok hm h.consistent
  have hsome : robots.keys ≠ [] := by
    obtain ⟨robotId, hknown⟩ := h.stocked
    rw [← hsame, ← Dict.mem_keys] at hknown
    exact List.ne_nil_of_mem hknown
  simp only [RobotRegistry.init, hhost, ends_bind, ends_get, hrobots, ends_orRaise_ok, if_pos hsome,
    ends_modify]
  exact ⟨hsame, trivial⟩

lemma ends_openFleet {live : FleetState} (h : live.Kept env) :
    Ends (openFleet env) (blank live.registry.host) (fun _ => Restored live) (fun _ => False) := by
  obtain ⟨db, hdb⟩ : ∃ db, live.registry.host.db = some db :=
    Option.isSome_iff_exists.mp h.tabled
  obtain ⟨assignments, hassignments, hsame⟩ := loadAssignmentsFromDb_ok (h.backed db hdb).2
  simp only [openFleet, blank, ends_bind, onRegistry, onDispatcher, FleetDispatcher.onRegistry,
    ends_focus]
  apply (ends_init h).mono
  · rintro _ ⟨robots, host⟩ ⟨hrobots, hhost⟩
    dsimp only at hhost
    subst hhost
    simp only [FleetDispatcher.init, ends_bind, ends_get, hdb, hassignments, ends_orRaise_ok,
      ends_modify]
    exact ⟨hrobots, hsame⟩
  · exact fun _ hfalse => hfalse

lemma kept_opened (hrel : env.Reliable) (ticks : ℕ) :
    FleetState.Kept env (opened env ⟨ticks, some emptyDb⟩) := by
  have h : JustOpened env ⟨ticks, some emptyDb⟩ (opened env ⟨ticks, some emptyDb⟩) := by
    apply justOpened_opened
    rintro db hdb
    exact ⟨(Option.some.inj hdb).symm, hrel⟩
  refine ⟨h.consistent, h.stocked, h.backed, ?_⟩
  exact h.db_isSome

/-- After every run on a fresh database the constructors find in its tables what the live objects
have, and no task has two active rows. -/
theorem restored_of_run (hrel : env.Reliable) (ticks : ℕ) (ops : List FleetOp) :
    let live := runAll (step env) (opened env ⟨ticks, some emptyDb⟩) ops
    raises (openFleet env) (blank live.registry.host) = false ∧
      Restored live (opened env live.registry.host) ∧
      ∃ db, live.registry.host.db = some db ∧ SingleActive db := by
  intro live
  have h : live.Kept env := (kept_opened hrel ticks).runAll ops
  obtain ⟨_, again, hrun, hrestored⟩ := (ends_openFleet h).run_ok
  obtain ⟨db, hdb⟩ := Option.isSome_iff_exists.mp h.tabled
  refine ⟨raises_of_ok hrun, ?_, db, hdb, ?_⟩
  · rw [opened, final_of_ok hrun]
    exact hrestored
  · intro row hrow other hother hactive hactive' htask
    exact (h.backed db hdb).2.active_unique hrow hother hactive hactive' htask

def redispatched : List FleetOp :=
  [newHaul 1, assignHaul 1, .haul 1 (.requeue "robot fault"), assignHaul 1]

theorem restored_of_run_redispatched :
    let live := runAll (step still) (opened still ⟨0, some emptyDb⟩) redispatched
    (raises (openFleet still) (blank live.registry.host) = false ∧
      Restored live (opened still live.registry.host) ∧
      ∃ db, live.registry.host.db = some db ∧ SingleActive db) ∧
    live.registry.host.db.map (fun db =>
      db.assignments.rows.map (fun row => (row.1, row.2.taskId, row.2.status))) =
        some [(1, 1, "released"), (2, 1, "assigned")] := by
  intro live
  refine ⟨restored_of_run ⟨fun _ => rfl, fun _ => rfl⟩ 0 redispatched, ?_⟩
  decide +kernel

end Runs

end Fleet
