import AmrWarehouse.Fleet.Operations

/-! What each registry call does to the records, and the consistency of the records. -/

namespace Fleet

open Library

namespace RobotRegistry

def Dependable (env : Environment) (registry : RobotRegistry) : Prop :=
  registry.host.db.isSome → env.Reliable

def ticked (registry : RobotRegistry) : RobotRegistry :=
  { registry with host := { registry.host with ticks := registry.host.ticks + 1 } }

def written (registry : RobotRegistry) (change : FleetDb → FleetDb) : RobotRegistry :=
  { registry with host := ⟨registry.host.ticks + 1, registry.host.db.map change⟩ }

def stored (registry : RobotRegistry) (robot : RobotRecord) : RobotRegistry :=
  let kept := { registry with robots := registry.robots.set robot.robotId robot }
  if registry.host.db.isSome then
    kept.written (fun db => { db with robots := db.robots.set robot.robotId robot.toRow })
  else kept

section Runs

variable (env : Environment) {registry : RobotRegistry} {robotId : String} {robot : RobotRecord}

def stamped (registry : RobotRegistry) (robot : RobotRecord) : RobotRecord :=
  { robot with updatedAt := env.utcStamp (env.clock registry.host.ticks) }

def put (registry : RobotRegistry) (robot : RobotRecord) : RobotRegistry :=
  registry.ticked.stored (registry.stamped env robot)

@[simp] lemma ticked_robots : registry.ticked.robots = registry.robots := rfl

@[simp] lemma ticked_db : registry.ticked.host.db = registry.host.db := rfl

@[simp] lemma written_robots (change : FleetDb → FleetDb) :
    (registry.written change).robots = registry.robots := rfl

@[simp] lemma stored_robots : (registry.stored robot).robots =
    registry.robots.set robot.robotId robot := by
  rw [stored]
  split <;> rfl

@[simp] lemma stored_db_isSome :
    (registry.stored robot).host.db.isSome = registry.host.db.isSome := by
  rw [stored]
  split <;> simp [written]

lemma stored_db : (registry.stored robot).host.db =
    registry.host.db.map
      (fun db => { db with robots := db.robots.set robot.robotId robot.toRow }) := by
  rw [stored]
  split
  · rfl
  · rename_i h
    have hnone : registry.host.db = none := by simpa using h
    simp [hnone]

@[simp] lemma put_robots : (registry.put env robot).robots =
    registry.robots.set robot.robotId (registry.stamped env robot) := by
  simp [put, stamped]

@[simp] lemma run_nowTimestamp : (nowTimestamp env).run registry =
    .ok (env.utcStamp (env.clock registry.host.ticks)) registry.ticked := rfl

lemma run_orNow (registry : RobotRegistry) (timestamp : Option String) :
    ∃ ts kept, (orNow env timestamp).run registry = .ok ts kept ∧ kept.robots = registry.robots ∧
      kept.host.db = registry.host.db := by
  cases timestamp with
  | none => exact ⟨_, registry.ticked, rfl, rfl, rfl⟩
  | some ts =>
    rw [orNow]
    by_cases h : ts = ""
    · exact ⟨_, registry.ticked, by simp [h]; rfl, rfl, rfl⟩
    · exact ⟨ts, registry, by simp [h], rfl, rfl⟩

@[simp] lemma run_orNow_none : (orNow env none).run registry =
    .ok (env.utcStamp (env.clock registry.host.ticks)) registry.ticked := rfl

lemma run_getRobot (h : registry.robots.get? robotId = some robot) :
    (getRobot robotId).run registry = .ok robot registry := by
  simp [getRobot, h]

lemma run_getRobot_none (h : registry.robots.get? robotId = none) :
    ∃ e, (getRobot robotId).run registry = .error e registry := by
  simp [getRobot, h]

lemma run_writeDb (hw : env.writeFails registry.host.ticks = false)
    (change : FleetDb → FleetDb) :
    (writeDb env change).run registry = .ok () (registry.written change) := by
  simp [writeDb, hw, written]

lemma run_writeDb_failed (hw : env.writeFails registry.host.ticks = true)
    (change : FleetDb → FleetDb) :
    (writeDb env change).run registry =
      .error ⟨.databaseError, "database write failed"⟩ registry.ticked := by
  simp [writeDb, hw, ticked]

lemma run_upsertRobot
    (hw : registry.host.db.isSome → env.writeFails registry.host.ticks = false)
    (robot : RobotRecord) :
    (upsertRobot env robot).run registry = .ok robot (registry.stored robot) := by
  rw [upsertRobot]
  cases hdb : registry.host.db.isSome
  · simp [stored, hdb]
  · have hkept : env.writeFails (RobotRegistry.mk
        (registry.robots.set robot.robotId robot) registry.host).host.ticks = false := hw hdb
    simp [stored, hdb, persistRobotToDb, run_writeDb env hkept]

lemma run_upsertRobot_failed (hdb : registry.host.db.isSome)
    (hw : env.writeFails registry.host.ticks = true) (robot : RobotRecord) :
    (upsertRobot env robot).run registry =
      .error ⟨.databaseError, "database write failed"⟩
        { registry.ticked with robots := registry.robots.set robot.robotId robot } := by
  have hkept : env.writeFails (RobotRegistry.mk
      (registry.robots.set robot.robotId robot) registry.host).host.ticks = true := hw
  simp [upsertRobot, hdb, persistRobotToDb, run_writeDb_failed env hkept, ticked]

lemma run_transition
    (hw : registry.host.db.isSome → env.writeFails (registry.host.ticks + 1) = false)
    (hget : registry.robots.get? robotId = some robot)
    {target : RobotState} (hall : target ∈ allowedTransitions robot.state) (given : Overrides) :
    let moved : RobotRecord :=
      { robot with
        state := target
        currentTaskId := given.currentTaskId.getD robot.currentTaskId
        currentStation := given.currentStation.getD robot.currentStation
        lastHeartbeat := given.lastHeartbeat.getD robot.lastHeartbeat
        battery := given.battery.getD robot.battery }
    (transition env robotId target given).run registry =
      .ok (registry.stamped env moved) (registry.put env moved) := by
  have hticked : registry.ticked.host.db.isSome →
      env.writeFails registry.ticked.host.ticks = false := hw
  simp [transition, run_getRobot hget, assertTransitionAllowed_ok hall, run_upsertRobot env hticked,
    put, stamped]

lemma run_transition_failed (hdb : registry.host.db.isSome)
    (hw : env.writeFails (registry.host.ticks + 1) = true)
    (hget : registry.robots.get? robotId = some robot)
    {target : RobotState} (hall : target ∈ allowedTransitions robot.state) (given : Overrides) :
    let moved : RobotRecord :=
      { robot with
        state := target
        currentTaskId := given.currentTaskId.getD robot.currentTaskId
        currentStation := given.currentStation.getD robot.currentStation
        lastHeartbeat := given.lastHeartbeat.getD robot.lastHeartbeat
        battery := given.battery.getD robot.battery }
    (transition env robotId target given).run registry =
      .error ⟨.databaseError, "database write failed"⟩
        { registry.ticked.ticked with
          robots := registry.robots.set robot.robotId (registry.stamped env moved) } := by
  have hticked : registry.ticked.host.db.isSome := hdb
  have hfails : env.writeFails registry.ticked.host.ticks = true := hw
  simp [transition, run_getRobot hget, assertTransitionAllowed_ok hall,
    run_upsertRobot_failed env hticked hfails, stamped]

lemma run_transition_refused (hget : registry.robots.get? robotId = some robot)
    {target : RobotState} (hall : target ∉ allowedTransitions robot.state) (given : Overrides) :
    ∃ e, (transition env robotId target given).run registry = .error e registry := by
  simp [transition, run_getRobot hget, assertTransitionAllowed, hall]

lemma run_assignTask
    (hw : registry.host.db.isSome → env.writeFails (registry.host.ticks + 1) = false)
    (hget : registry.robots.get? robotId = some robot)
    (hidle : robot.state = .idle) (taskId : ℤ) :
    let bound : RobotRecord := { robot with state := .assigned, currentTaskId := some taskId }
    (assignTask env robotId taskId).run registry =
      .ok (registry.stamped env bound) (registry.put env bound) := by
  have hall : RobotState.assigned ∈ allowedTransitions robot.state := by
    rw [hidle]
    decide
  have hrun := run_transition env hw hget hall { currentTaskId := some (some taskId) }
  simp [assignTask, run_getRobot hget, hidle, RobotRecord.hasActiveTask, activeTaskStates,
    dispatchableStates, hrun]

lemma run_assignTask_failed (hdb : registry.host.db.isSome)
    (hw : env.writeFails (registry.host.ticks + 1) = true)
    (hget : registry.robots.get? robotId = some robot)
    (hidle : robot.state = .idle) (taskId : ℤ) :
    let bound : RobotRecord := { robot with state := .assigned, currentTaskId := some taskId }
    (assignTask env robotId taskId).run registry =
      .error ⟨.databaseError, "database write failed"⟩
        { registry.ticked.ticked with
          robots := registry.robots.set robot.robotId (registry.stamped env bound) } := by
  have hall : RobotState.assigned ∈ allowedTransitions robot.state := by
    rw [hidle]
    decide
  have hrun := run_transition_failed env hdb hw hget hall
    { currentTaskId := some (some taskId) }
  simp [assignTask, run_getRobot hget, hidle, RobotRecord.hasActiveTask, activeTaskStates,
    dispatchableStates, hrun]

lemma run_assignTask_refused (hget : registry.robots.get? robotId = some robot)
    (hidle : robot.state ≠ .idle) (taskId : ℤ) :
    ∃ e, (assignTask env robotId taskId).run registry = .error e registry := by
  simp only [assignTask, EStateM.run_bind, run_getRobot hget, dispatchableStates,
    List.mem_singleton, hidle, not_false_eq_true, if_true]
  split_ifs <;> simp

lemma run_markBusy (hd : registry.Dependable env) (hget : registry.robots.get? robotId = some robot)
    (hassigned : robot.state = .assigned) (htask : robot.currentTaskId ≠ none) :
    (markBusy env robotId).run registry =
      .ok (registry.stamped env { robot with state := .busy })
        (registry.put env { robot with state := .busy }) := by
  have hall : RobotState.busy ∈ allowedTransitions robot.state := by
    rw [hassigned]
    decide
  have hrun := run_transition env (fun h => (hd h).writes _) hget hall {}
  simp [markBusy, run_getRobot hget, htask, hrun]

lemma run_markBusy_refused (hget : registry.robots.get? robotId = some robot)
    (h : robot.state ≠ .assigned ∨ robot.currentTaskId = none) :
    ∃ e, (markBusy env robotId).run registry = .error e registry := by
  by_cases htask : robot.currentTaskId = none
  · simp [markBusy, run_getRobot hget, htask]
  · have hstate := h.resolve_right htask
    have hall : RobotState.busy ∉ allowedTransitions robot.state := by
      cases hs : robot.state <;> simp_all [allowedTransitions]
    obtain ⟨e, he⟩ := run_transition_refused env hget hall {}
    exact ⟨e, by simp [markBusy, run_getRobot hget, htask, he]⟩

lemma run_releaseTask (hd : registry.Dependable env)
    (hget : registry.robots.get? robotId = some robot) (hactive : robot.state ∈ activeTaskStates) :
    let freed : RobotRecord := { robot with state := .idle, currentTaskId := none }
    (releaseTask env robotId).run registry =
      .ok (registry.stamped env freed) (registry.put env freed) := by
  have hall : RobotState.idle ∈ allowedTransitions robot.state := by
    cases hs : robot.state <;> simp_all [allowedTransitions, activeTaskStates]
  have hrun := run_transition env (fun h => (hd h).writes _) hget hall
    { currentTaskId := some none }
  simp [releaseTask, run_getRobot hget, hactive, hrun]

lemma run_releaseTask_refused (hget : registry.robots.get? robotId = some robot)
    (hactive : robot.state ∉ activeTaskStates) :
    ∃ e, (releaseTask env robotId).run registry = .error e registry := by
  simp [releaseTask, run_getRobot hget, hactive]

lemma run_markOffline (hd : registry.Dependable env)
    (hget : registry.robots.get? robotId = some robot) (hoff : robot.state ≠ .offline) :
    (markOffline env robotId).run registry =
      .ok (registry.stamped env { robot with state := .offline })
        (registry.put env { robot with state := .offline }) := by
  have hall : RobotState.offline ∈ allowedTransitions robot.state := by
    cases hs : robot.state <;> simp_all [allowedTransitions]
  have hrun := run_transition env (fun h => (hd h).writes _) hget hall {}
  simp [markOffline, run_getRobot hget, hoff, hrun]

lemma run_markOffline_same (hget : registry.robots.get? robotId = some robot)
    (hoff : robot.state = .offline) :
    (markOffline env robotId).run registry = .ok robot registry := by
  simp [markOffline, run_getRobot hget, hoff]

lemma run_markError (hd : registry.Dependable env)
    (hget : registry.robots.get? robotId = some robot) (herr : robot.state ≠ .error) :
    (markError env robotId).run registry =
      .ok (registry.stamped env { robot with state := .error })
        (registry.put env { robot with state := .error }) := by
  have hall : RobotState.error ∈ allowedTransitions robot.state := by
    cases hs : robot.state <;> simp_all [allowedTransitions]
  have hrun := run_transition env (fun h => (hd h).writes _) hget hall {}
  simp [markError, run_getRobot hget, hrun]

lemma run_markError_refused (hget : registry.robots.get? robotId = some robot)
    (herr : robot.state = .error) :
    ∃ e, (markError env robotId).run registry = .error e registry := by
  have hall : RobotState.error ∉ allowedTransitions robot.state := by
    rw [herr]
    decide
  obtain ⟨e, he⟩ := run_transition_refused env hget hall {}
  exact ⟨e, by simp [markError, run_getRobot hget, he]⟩

lemma run_setCurrentStation (hd : registry.Dependable env)
    (hget : registry.robots.get? robotId = some robot) (station : String) :
    (setCurrentStation env robotId station).run registry =
      .ok (registry.stamped env { robot with currentStation := some station })
        (registry.put env { robot with currentStation := some station }) := by
  have hticked : registry.ticked.host.db.isSome →
      env.writeFails registry.ticked.host.ticks = false := fun h => (hd h).writes _
  simp [setCurrentStation, run_getRobot hget, run_upsertRobot env hticked, put, stamped]

lemma run_recoverToIdle (hd : registry.Dependable env)
    (hget : registry.robots.get? robotId = some robot) (htask : robot.currentTaskId = none)
    (hidle : robot.state ≠ .idle) :
    (recoverToIdle env robotId).run registry =
      .ok (registry.stamped env { robot with state := .idle, currentTaskId := none })
        (registry.put env { robot with state := .idle, currentTaskId := none }) := by
  have hall : RobotState.idle ∈ allowedTransitions robot.state := by
    cases hs : robot.state <;> simp_all [allowedTransitions]
  have hrun := run_transition env (fun h => (hd h).writes _) hget hall
    { currentTaskId := some none }
  simp [recoverToIdle, run_getRobot hget, htask, hrun]

lemma run_recoverToIdle_refused (hget : registry.robots.get? robotId = some robot)
    (h : robot.currentTaskId ≠ none ∨ robot.state = .idle) :
    ∃ e, (recoverToIdle env robotId).run registry = .error e registry := by
  by_cases htask : robot.currentTaskId = none
  · have hidle := h.resolve_left (not_not.mpr htask)
    have hall : RobotState.idle ∉ allowedTransitions robot.state := by
      rw [hidle]
      decide
    obtain ⟨e, he⟩ := run_transition_refused env hget hall { currentTaskId := some none }
    exact ⟨e, by simp [recoverToIdle, run_getRobot hget, htask, he]⟩
  · have hsome : robot.currentTaskId.isSome := Option.isSome_iff_ne_none.mpr htask
    simp [recoverToIdle, run_getRobot hget, hsome]

lemma run_recordHeartbeat (hd : registry.Dependable env)
    (hget : registry.robots.get? robotId = some robot) (timestamp currentStation : Option String)
    (battery : Option ℚ) (recoverOffline : Bool) :
    ∃ (ts : String) (kept : RobotRegistry), kept.robots = registry.robots ∧
      kept.host.db = registry.host.db ∧
      let updated : RobotRecord :=
        { robot with
          state :=
            if recoverOffline ∧ robot.state = .offline ∧ robot.currentTaskId = none then .idle
            else robot.state
          currentStation := if currentStation.isSome then currentStation else robot.currentStation
          lastHeartbeat := some ts
          battery := battery.getD robot.battery
          updatedAt := ts }
      (recordHeartbeat env robotId timestamp currentStation battery recoverOffline).run registry =
        .ok updated (kept.stored updated) := by
  obtain ⟨ts, kept, hrun, hkept, hdb⟩ := run_orNow env registry timestamp
  have hdk : kept.host.db.isSome → env.writeFails kept.host.ticks = false := by
    intro h
    rw [hdb] at h
    exact (hd h).writes _
  refine ⟨ts, kept, hkept, hdb, ?_⟩
  by_cases hoff : recoverOffline = true ∧ robot.state = .offline
  · have hall : assertTransitionAllowed .offline .idle = .ok () :=
      assertTransitionAllowed_ok (by decide)
    cases htask : robot.currentTaskId <;>
      simp [recordHeartbeat, run_getRobot hget, hrun, hoff, htask, run_upsertRobot env hdk, hall]
  · have hstate : ¬ (recoverOffline = true ∧ robot.state = .offline ∧ robot.currentTaskId = none) :=
      fun h => hoff ⟨h.1, h.2.1⟩
    simp [recordHeartbeat, run_getRobot hget, hrun, hoff, hstate, run_upsertRobot env hdk]

end Runs

end RobotRegistry

namespace RegistryOp

def robotId : RegistryOp → String
  | assignTask robotId _ => robotId
  | markBusy robotId => robotId
  | releaseTask robotId => robotId
  | markOffline robotId => robotId
  | markError robotId => robotId
  | recordHeartbeat robotId _ _ _ _ => robotId
  | setCurrentStation robotId _ => robotId
  | recoverToIdle robotId => robotId

def Effect : RegistryOp → RobotRecord → RobotRecord → Prop
  | assignTask _ taskId, a, b =>
    a.state = .idle ∧ b.state = .assigned ∧ b.currentTaskId = some taskId
  | markBusy _, a, b =>
    a.state = .assigned ∧ b.state = .busy ∧ b.currentTaskId = a.currentTaskId
  | releaseTask _, a, b => a.state ∈ activeTaskStates ∧ b.state = .idle ∧ b.currentTaskId = none
  | markOffline _, a, b => b.state = .offline ∧ b.currentTaskId = a.currentTaskId
  | markError _, a, b => b.state = .error ∧ b.currentTaskId = a.currentTaskId
  | recordHeartbeat _ _ _ _ _, a, b => b.currentTaskId = a.currentTaskId ∧
    (b.state = a.state ∨ a.state = .offline ∧ a.currentTaskId = none ∧ b.state = .idle)
  | setCurrentStation _ _, a, b => b.state = a.state ∧ b.currentTaskId = a.currentTaskId
  | recoverToIdle _, a, b =>
    a.currentTaskId = none ∧ b.currentTaskId = none ∧ b.state = .idle

variable {env : Environment} {registry : RobotRegistry}

/-- `op` leaves the registry as it is, or stores one record that differs from the old one by its
effect. -/
inductive Outcome (op : RegistryOp) (before : RobotRegistry) : RobotRegistry → Prop
  | same : Outcome op before before
  | stored {robot moved : RobotRecord} {kept : RobotRegistry} :
      before.robots.get? op.robotId = some robot → op.Effect robot moved →
      moved.robotId = robot.robotId → kept.robots = before.robots →
      kept.host.db = before.host.db → Outcome op before (kept.stored moved)

lemma outcome_of_put {op : RegistryOp} {robot moved returned : RobotRecord}
    (hrun : (op.call env).run registry = .ok returned (registry.put env moved))
    (hget : registry.robots.get? op.robotId = some robot) (heffect : op.Effect robot moved)
    (hname : moved.robotId = robot.robotId) :
    op.Outcome registry (final (op.call env) registry) := by
  have hstamped : op.Effect robot (registry.stamped env moved) := by cases op <;> exact heffect
  rw [final_of_ok hrun]
  exact .stored hget hstamped hname rfl rfl

lemma outcome_of_refused {op : RegistryOp}
    (hrun : ∃ e, (op.call env).run registry = .error e registry) :
    op.Outcome registry (final (op.call env) registry) := by
  obtain ⟨e, he⟩ := hrun
  rw [final_of_error he]
  exact .same

open RobotRegistry in
theorem call_outcome (hd : registry.Dependable env) (op : RegistryOp) :
    op.Outcome registry (final (op.call env) registry) := by
  cases hget : registry.robots.get? op.robotId with
  | none =>
    obtain ⟨e, he⟩ := run_getRobot_none hget
    have hsame : final (op.call env) registry = registry := by
      cases op <;> simp only [RegistryOp.robotId] at he <;>
      simp [RegistryOp.call, RobotRegistry.assignTask, RobotRegistry.markBusy,
        RobotRegistry.releaseTask, RobotRegistry.markOffline, RobotRegistry.markError,
        RobotRegistry.recordHeartbeat, RobotRegistry.setCurrentStation,
        RobotRegistry.recoverToIdle, final, he]
    rw [hsame]
    exact .same
  | some robot =>
    cases op with
    | assignTask robotId taskId =>
      by_cases h : robot.state = .idle
      · exact outcome_of_put (run_assignTask env (fun hdb => (hd hdb).writes _) hget h taskId) hget
          ⟨h, rfl, rfl⟩ rfl
      · exact outcome_of_refused (run_assignTask_refused env hget h taskId)
    | markBusy robotId =>
      by_cases h : robot.state = .assigned ∧ robot.currentTaskId ≠ none
      · exact outcome_of_put (run_markBusy env hd hget h.1 h.2) hget ⟨h.1, rfl, rfl⟩ rfl
      · exact outcome_of_refused (run_markBusy_refused env hget (by tauto))
    | releaseTask robotId =>
      by_cases h : robot.state ∈ activeTaskStates
      · exact outcome_of_put (run_releaseTask env hd hget h) hget ⟨h, rfl, rfl⟩ rfl
      · exact outcome_of_refused (run_releaseTask_refused env hget h)
    | markOffline robotId =>
      simp only [RegistryOp.robotId] at hget
      by_cases h : robot.state = .offline
      · rw [call, final_of_ok (run_markOffline_same env hget h)]
        exact .same
      · exact outcome_of_put (run_markOffline env hd hget h) hget ⟨rfl, rfl⟩ rfl
    | markError robotId =>
      by_cases h : robot.state = .error
      · exact outcome_of_refused (run_markError_refused env hget h)
      · exact outcome_of_put (run_markError env hd hget h) hget ⟨rfl, rfl⟩ rfl
    | recordHeartbeat robotId timestamp currentStation battery recoverOffline =>
      simp only [RegistryOp.robotId] at hget
      obtain ⟨ts, kept, hkept, hdb, hrun⟩ := run_recordHeartbeat env hd hget timestamp
        currentStation battery recoverOffline
      rw [call, final_of_ok hrun]
      refine .stored hget ⟨rfl, ?_⟩ rfl hkept hdb
      by_cases h : recoverOffline = true ∧ robot.state = .offline ∧ robot.currentTaskId = none
      · exact .inr ⟨h.2.1, h.2.2, by simp [h]⟩
      · exact .inl (by simp [h])
    | setCurrentStation robotId station =>
      exact outcome_of_put (run_setCurrentStation env hd hget station) hget ⟨rfl, rfl⟩ rfl
    | recoverToIdle robotId =>
      by_cases h : robot.currentTaskId = none ∧ robot.state ≠ .idle
      · exact outcome_of_put (run_recoverToIdle env hd hget h.1 h.2) hget ⟨h.1, rfl, rfl⟩ rfl
      · exact outcome_of_refused (run_recoverToIdle_refused env hget (by tauto))

end RegistryOp

end Fleet
