import AmrWarehouse.Fleet.Restart

/-! Two registries on one database: the fleet's, and that of a vendor adapter that only records
heartbeats. -/

namespace Fleet

open Library

structure SharedRegistry where
  fleet : Dict String RobotRecord
  adapter : Dict String RobotRecord
  host : Host

inductive SharedOp
  | fleet (op : RegistryOp)
  | adapter (robotId : String) (timestamp currentStation : Option String) (battery : Option ℚ)

namespace SharedRegistry

def onFleet {α : Type} (call : Call RobotRegistry α) : Call SharedRegistry α :=
  focus (fun shared => ⟨shared.fleet, shared.host⟩)
    (fun registry shared => { shared with fleet := registry.robots, host := registry.host }) call

def onAdapter {α : Type} (call : Call RobotRegistry α) : Call SharedRegistry α :=
  focus (fun shared => ⟨shared.adapter, shared.host⟩)
    (fun registry shared => { shared with adapter := registry.robots, host := registry.host }) call

end SharedRegistry

/-- The adapter's call when it has received a telemetry frame. -/
def onVendorTelemetryReceived (robotId : String) (timestamp : Option String) : SharedOp :=
  .adapter robotId timestamp none none

def SharedOp.call (env : Environment) : SharedOp → Call SharedRegistry RobotRecord
  | fleet op => SharedRegistry.onFleet (op.call env)
  | adapter robotId timestamp currentStation battery => SharedRegistry.onAdapter
      (RobotRegistry.recordHeartbeat env robotId timestamp currentStation battery false)

def SharedRegistry.step (env : Environment) (shared : SharedRegistry) (op : SharedOp) :
    SharedRegistry :=
  final (op.call env) shared

structure SameBusiness (robot : RobotRecord) (row : RobotRow) : Prop where
  state_eq : row.state = robot.state.value
  currentTaskId_eq : row.currentTaskId = robot.currentTaskId
  currentStation_eq : row.currentStation = robot.currentStation
  battery_eq : row.battery = robot.battery

def Faithful (shared : SharedRegistry) : Prop :=
  ∃ db, shared.host.db = some db ∧ ∀ robotId robot, shared.fleet.get? robotId = some robot →
    ∃ row, db.robots.get? robotId = some row ∧ SameBusiness robot row

def beaten (cached : RobotRecord) (currentStation : Option String) (battery : Option ℚ) :
    RobotRecord :=
  { cached with
    currentStation := if currentStation.isSome then currentStation else cached.currentStation
    battery := battery.getD cached.battery }

/-- The heartbeat writes the state, the task, the station and the battery that the fleet has. -/
def Current (shared : SharedRegistry) : SharedOp → Prop
  | .fleet _ => True
  | .adapter robotId _ currentStation battery => ∀ cached robot,
      shared.adapter.get? robotId = some cached → shared.fleet.get? robotId = some robot →
      SameBusiness robot (beaten cached currentStation battery).toRow

structure Joined (env : Environment) (shared : SharedRegistry) : Prop where
  fleet_named : ∀ {robotId robot}, shared.fleet.get? robotId = some robot → robot.robotId = robotId
  adapter_named : ∀ {robotId robot}, shared.adapter.get? robotId = some robot →
    robot.robotId = robotId
  reliable : env.Reliable

section Steps

variable {env : Environment} {shared : SharedRegistry}

lemma named_set {robots : Dict String RobotRecord}
    (h : ∀ {robotId robot}, robots.get? robotId = some robot → robot.robotId = robotId)
    (moved : RobotRecord) {robotId : String} {robot : RobotRecord}
    (hget : (robots.set moved.robotId moved).get? robotId = some robot) :
    robot.robotId = robotId := by
  rw [Dict.get?_set] at hget
  split_ifs at hget with heq
  · rw [← Option.some.inj hget, heq]
  · exact h hget

def Writes (before after : SharedRegistry) (moved : RobotRecord) : Prop :=
  after.host.db = before.host.db.map fun db =>
    { db with robots := db.robots.set moved.robotId moved.toRow }

lemma fleet_step_cases (hj : Joined env shared) (op : RegistryOp) :
    shared.step env (.fleet op) = shared ∨
      ∃ moved, (shared.step env (.fleet op)).fleet = shared.fleet.set moved.robotId moved ∧
        (shared.step env (.fleet op)).adapter = shared.adapter ∧
          Writes shared (shared.step env (.fleet op)) moved := by
  have hd : RobotRegistry.Dependable env ⟨shared.fleet, shared.host⟩ := fun _ => hj.reliable
  have houtcome := op.call_outcome hd
  simp only [SharedRegistry.step, SharedOp.call, SharedRegistry.onFleet, final_focus]
  generalize final (op.call env) ⟨shared.fleet, shared.host⟩ = after at houtcome
  cases houtcome with
  | same => exact .inl rfl
  | @stored robot moved kept hget heffect hname hkept hdb =>
    refine .inr ⟨moved, ?_, trivial, ?_⟩
    · rw [RobotRegistry.stored_robots, hkept]
    · rw [Writes, RobotRegistry.stored_db, hdb]

lemma adapter_step_cases (hj : Joined env shared) (robotId : String)
    (timestamp currentStation : Option String) (battery : Option ℚ) :
    let after := shared.step env (.adapter robotId timestamp currentStation battery)
    shared.adapter.get? robotId = none ∧ after = shared ∨
      ∃ cached updated, shared.adapter.get? robotId = some cached ∧ updated.robotId = robotId ∧
        (∀ robot, SameBusiness robot updated.toRow ↔
          SameBusiness robot (beaten cached currentStation battery).toRow) ∧
        after.fleet = shared.fleet ∧ after.adapter = shared.adapter.set robotId updated ∧
          Writes shared after updated := by
  intro after
  have hd : RobotRegistry.Dependable env ⟨shared.adapter, shared.host⟩ := fun _ => hj.reliable
  have hafter : after = { shared with
      adapter := (final (RobotRegistry.recordHeartbeat env robotId timestamp currentStation battery
        false) ⟨shared.adapter, shared.host⟩).robots
      host := (final (RobotRegistry.recordHeartbeat env robotId timestamp currentStation battery
        false) ⟨shared.adapter, shared.host⟩).host } := by
    simp only [after, SharedRegistry.step, SharedOp.call, SharedRegistry.onAdapter, final_focus]
  cases hget : shared.adapter.get? robotId with
  | none =>
    have hunknown :
        (⟨shared.adapter, shared.host⟩ : RobotRegistry).robots.get? robotId = none := hget
    obtain ⟨e, he⟩ := RobotRegistry.run_getRobot_none hunknown
    refine .inl ⟨rfl, ?_⟩
    rw [hafter]
    simp [RobotRegistry.recordHeartbeat, final, he]
  | some cached =>
    obtain ⟨ts, kept, hkept, hdb, hrun⟩ := RobotRegistry.run_recordHeartbeat env hd hget timestamp
      currentStation battery false
    have hid := hj.adapter_named hget
    let updated : RobotRecord :=
      { beaten cached currentStation battery with lastHeartbeat := some ts, updatedAt := ts }
    have hstored : final (RobotRegistry.recordHeartbeat env robotId timestamp currentStation battery
        false) ⟨shared.adapter, shared.host⟩ = kept.stored updated := by
      rw [final_of_ok hrun]
      simp [updated, beaten]
    rw [hstored] at hafter
    refine .inr ⟨cached, updated, rfl, hid, ?_, ?_, ?_, ?_⟩
    · intro robot
      constructor
      · rintro ⟨hstate, htask, hstation, hbattery⟩
        exact ⟨hstate, htask, hstation, hbattery⟩
      · rintro ⟨hstate, htask, hstation, hbattery⟩
        exact ⟨hstate, htask, hstation, hbattery⟩
    · rw [hafter]
    · rw [hafter]
      dsimp only
      rw [RobotRegistry.stored_robots, hkept]
      exact congrArg (fun id => shared.adapter.set id updated) hid
    · rw [hafter, Writes]
      dsimp only
      rw [RobotRegistry.stored_db, hdb]

lemma Joined.step (hj : Joined env shared) (op : SharedOp) : Joined env (shared.step env op) := by
  cases op with
  | fleet op =>
    rcases fleet_step_cases hj op with hsame | ⟨moved, hfleet, hadapter, _⟩
    · rw [hsame]
      exact hj
    · refine ⟨?_, ?_, hj.reliable⟩
      · rw [hfleet]
        exact fun hget => named_set hj.fleet_named moved hget
      · rw [hadapter]
        exact hj.adapter_named
  | adapter robotId timestamp currentStation battery =>
    rcases adapter_step_cases hj robotId timestamp currentStation battery with
      ⟨_, hsame⟩ | ⟨cached, updated, _, rfl, _, hfleet, hadapter, _⟩
    · rw [hsame]
      exact hj
    · refine ⟨?_, ?_, hj.reliable⟩
      · rw [hfleet]
        exact hj.fleet_named
      · rw [hadapter]
        exact fun hget => named_set hj.adapter_named updated hget

lemma sameBusiness_toRow (robot : RobotRecord) : SameBusiness robot robot.toRow :=
  ⟨rfl, rfl, rfl, rfl⟩

lemma faithful_step_iff (hj : Joined env shared) (h : Faithful shared) (op : SharedOp) :
    Faithful (shared.step env op) ↔ Current shared op := by
  obtain ⟨db, hdb, hrows⟩ := id h
  cases op with
  | fleet op =>
    refine iff_of_true ?_ trivial
    rcases fleet_step_cases hj op with hsame | ⟨moved, hfleet, _, hwrites⟩
    · rw [hsame]
      exact h
    · rw [Writes, hdb] at hwrites
      refine ⟨_, hwrites, ?_⟩
      intro robotId robot hget
      rw [hfleet, Dict.get?_set] at hget
      dsimp only
      rw [Dict.get?_set]
      split_ifs at hget ⊢
      · obtain rfl := Option.some.inj hget
        exact ⟨_, rfl, sameBusiness_toRow _⟩
      · exact hrows robotId robot hget
  | adapter robotId timestamp currentStation battery =>
    rcases adapter_step_cases hj robotId timestamp currentStation battery with
      ⟨hnone, hsame⟩ | ⟨cached, updated, hget, hid, hsame, hfleet, _, hwrites⟩
    · rw [hsame]
      refine iff_of_true h ?_
      intro cached robot hcached
      rw [hnone] at hcached
      simp at hcached
    · rw [Writes, hdb] at hwrites
      constructor
      · rintro ⟨db', hdb', hafter⟩ other robot hother hrobot
        obtain rfl := Option.some.inj (hget.symm.trans hother)
        obtain rfl := Option.some.inj (hwrites.symm.trans hdb')
        obtain ⟨row, hrow, hbusiness⟩ := hafter robotId robot (by rw [hfleet, hrobot])
        dsimp only at hrow
        rw [hid, Dict.get?_set_self] at hrow
        obtain rfl := Option.some.inj hrow
        exact (hsame robot).mp hbusiness
      · intro hcurrent
        refine ⟨_, hwrites, ?_⟩
        intro id robot hrobot
        rw [hfleet] at hrobot
        dsimp only
        rw [hid, Dict.get?_set]
        split_ifs with heq
        · subst heq
          exact ⟨_, rfl, (hsame robot).mpr (hcurrent cached robot hget hrobot)⟩
        · exact hrows id robot hrobot

end Steps

section Runs

variable {env : Environment}

/-- Along a run of the two processes the rows always carry what the fleet has last written exactly
if no heartbeat writes an outdated record. -/
theorem faithful_iff_current {shared : SharedRegistry} (hj : Joined env shared)
    (h : Faithful shared) (ops : List SharedOp) :
    Always (SharedRegistry.step env) Faithful shared ops ↔
      Guarded (SharedRegistry.step env) Current shared ops := by
  apply always_iff_guarded (Joined env)
  · exact fun shared op hshared _ => hshared.step op
  · exact fun shared op hshared _ hrows => faithful_step_iff hshared hrows op
  · exact hj
  · exact h
  · exact guarded_of_forall (fun _ _ => trivial) shared ops

def joined (env : Environment) (live : FleetState) : SharedRegistry :=
  let adapter := final (RobotRegistry.init env none true) ⟨Dict.empty, live.registry.host⟩
  ⟨live.registry.robots, adapter.robots, adapter.host⟩

lemma joined_spec {live : FleetState} (h : live.Kept env) (hrel : env.Reliable) :
    Joined env (joined env live) ∧ Faithful (joined env live) := by
  obtain ⟨db, hdb⟩ : ∃ db, live.registry.host.db = some db :=
    Option.isSome_iff_exists.mp h.tabled
  obtain ⟨_, again, hrun, hrobots, hhost⟩ := (ends_init h).run_ok
  have hjoined : joined env live = ⟨live.registry.robots, again.robots, live.registry.host⟩ := by
    simp only [joined, final_of_ok hrun, hhost]
  rw [hjoined]
  refine ⟨⟨?_, ?_, hrel⟩, db, hdb, ?_⟩
  · exact fun hget => h.consistent.named hget
  · intro robotId robot hget
    dsimp only at hget
    rw [hrobots] at hget
    exact h.consistent.named hget
  · intro robotId robot hget
    have hrow := (h.backed db hdb).2.robots_eq robotId
    have hlive : live.dispatcher.registry.robots.get? robotId = some robot := hget
    rw [hlive] at hrow
    exact ⟨_, hrow, sameBusiness_toRow robot⟩

def stillShared : SharedRegistry := joined still (opened still ⟨0, some emptyDb⟩)

lemma reliable_still : still.Reliable := ⟨fun _ => rfl, fun _ => rfl⟩

lemma stillShared_spec : Joined still stillShared ∧ Faithful stillShared :=
  joined_spec (kept_opened reliable_still 0) reliable_still

theorem faithful_iff_current_still :
    Always (SharedRegistry.step still) Faithful stillShared
        [onVendorTelemetryReceived "robot_01" none] ↔
      Guarded (SharedRegistry.step still) Current stillShared
        [onVendorTelemetryReceived "robot_01" none] :=
  faithful_iff_current stillShared_spec.1 stillShared_spec.2 _

def assignedThenReceived : List SharedOp :=
  [.fleet (.assignTask "robot_01" 1), onVendorTelemetryReceived "robot_01" none]

theorem telemetry_loses_assignment :
    ¬ Faithful (runAll (SharedRegistry.step still) stillShared assignedThenReceived) := by
  rintro ⟨db, hdb, hrows⟩
  have hfleet : ((runAll (SharedRegistry.step still) stillShared assignedThenReceived).fleet.get?
      "robot_01").map RobotRecord.currentTaskId = some (some 1) := by
    decide +kernel
  have hrow : ((runAll (SharedRegistry.step still) stillShared assignedThenReceived).host.db.bind
      (fun db => db.robots.get? "robot_01")).map RobotRow.currentTaskId = some none := by
    decide +kernel
  obtain ⟨robot, hget, htask⟩ := Option.map_eq_some_iff.mp hfleet
  obtain ⟨row, hfound, hbusiness⟩ := hrows "robot_01" robot hget
  rw [hdb, Option.bind_some, hfound, Option.map_some, hbusiness.currentTaskId_eq, htask] at hrow
  simp at hrow

end Runs

end Fleet
