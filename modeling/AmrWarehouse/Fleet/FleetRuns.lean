import AmrWarehouse.Fleet.FleetCalls

/-! Fleets that have just been opened, and what holds after every run. -/

namespace Fleet

open Library

structure Started (env : Environment) (fleet : FleetState) : Prop where
  consistent : Consistent fleet.registry.robots
  unassigned : ∀ taskId, fleet.dispatcher.assignments.get? taskId = none
  unhauled : ∀ taskId, fleet.hauls.get? taskId = none
  backed : fleet.dispatcher.Backed env

structure Seeded (env : Environment) (fleet : FleetState) : Prop extends Started env fleet where
  idle : ∀ {robotId robot}, fleet.registry.robots.get? robotId = some robot →
    robot.state = .idle ∧ robot.currentTaskId = none

section Runs

variable {env : Environment} {start fleet : FleetState}

lemma Started.snapshot_eq (h : Started env start) (taskId : ℤ) :
    start.snapshot? taskId = none := by
  simp [FleetState.snapshot?, h.unhauled]

lemma Started.good (h : Started env start) : Good env start := by
  refine ⟨⟨h.consistent, ?_, ?_⟩, h.backed⟩
  · intro taskId snapshot hget
    have hnone : start.view.snapshot? taskId = none := h.snapshot_eq taskId
    rw [hnone] at hget
    simp at hget
  · intro taskId snapshot hget
    have hnone : start.view.snapshot? taskId = none := h.snapshot_eq taskId
    rw [hnone] at hget
    simp at hget

def Neutral (_ : FleetState) (op : FleetOp) : Prop := op.Neutral

lemma Started.reachable_good (h : Started env start)
    (hreach : Reachable (step env) Neutral start fleet) : Good env fleet :=
  hreach.invariant (Good env) h.good (fun _ _ hgood hn => (step_goes hgood hn).good)

end Runs

namespace RobotRegistry

variable {env : Environment} {registry : RobotRegistry}

structure Default (robotId : String) (robot : RobotRecord) : Prop where
  robotId_eq : robot.robotId = robotId
  state_eq : robot.state = .idle
  currentTaskId_eq : robot.currentTaskId = none

lemma ends_seedDefaultRobots (robotIds : List String)
    {Q : Dict String RobotRecord → RobotRegistry → Prop} {E : RobotRegistry → Prop}
    (hq : ∀ robots kept, (∀ robotId robot, robots.get? robotId = some robot →
        Default robotId robot) → (∀ robotId ∈ robotIds, (robots.get? robotId).isSome) →
      kept.robots = registry.robots → kept.host.db = registry.host.db → Q robots kept) :
    Ends (seedDefaultRobots env none robotIds) registry Q E := by
  have hbuild : ∀ (robotIds : List String) (registry : RobotRegistry),
      Ends (robotIds.mapM (fun robotId => buildDefaultRobot env robotId none)) registry
        (fun robots kept => List.Forall₂ Default robotIds robots ∧
          kept.robots = registry.robots ∧ kept.host.db = registry.host.db)
        (fun _ => False) := by
    intro robotIds
    induction robotIds with
    | nil =>
      intro registry
      exact ⟨.nil, rfl, rfl⟩
    | cons robotId robotIds ih =>
      intro registry
      rw [List.mapM_cons, ends_bind, buildDefaultRobot, ends_bind]
      apply ends_of_ok (run_orNow_none env)
      rw [ends_pure, ends_bind]
      apply (ih registry.ticked).mono
      · rintro robots kept ⟨hall, hrobots, hdb⟩
        exact ⟨.cons ⟨rfl, rfl, rfl⟩ hall, hrobots, hdb⟩
      · exact fun _ hfalse => hfalse
  rw [seedDefaultRobots, ends_bind]
  apply (hbuild robotIds registry).mono
  · rintro robots kept ⟨hall, hrobots, hdb⟩
    rw [ends_pure]
    apply hq _ _ _ ?_ hrobots hdb
    · intro robotId robot hget
      rw [Dict.get?_ofList, Option.map_eq_some_iff] at hget
      obtain ⟨⟨_, _⟩, hfind, rfl⟩ := hget
      have hmem := List.mem_reverse.mp (List.mem_of_find?_eq_some hfind)
      have hkey := List.find?_some hfind
      simp only [decide_eq_true_eq] at hkey
      rw [← hkey]
      exact (List.forall₂_iff_zip.mp hall).2 hmem
    · intro robotId hmem
      rw [Dict.get?_ofList, Option.isSome_map, List.find?_isSome]
      have hkeys : (robotIds.zip robots).map Prod.fst = robotIds :=
        List.map_fst_zip hall.length_eq.le
      rw [← hkeys] at hmem
      obtain ⟨entry, hentry, rfl⟩ := List.mem_map.mp hmem
      exact ⟨entry, List.mem_reverse.mpr hentry, by simp⟩
  · exact fun _ hfalse => hfalse.elim

lemma ends_persistRobots (registry : RobotRegistry) (hrel : env.Reliable) {db : FleetDb}
    {robots : Dict String RobotRecord}
    (hdb : registry.host.db = some db) (written : List RobotRecord)
    (hmem : ∀ robot ∈ written, robots.get? robot.robotId = some robot) :
    Ends (written.forM (persistRobotToDb env)) registry
      (fun _ kept => kept.robots = registry.robots ∧
        ∃ db', kept.host.db = some db' ∧ db'.assignments = db.assignments ∧
          ∀ robotId, db'.robots.get? robotId =
            if robotId ∈ written.map RobotRecord.robotId then
              (robots.get? robotId).map RobotRecord.toRow
            else db.robots.get? robotId)
      (fun _ => False) := by
  induction written generalizing registry db with
  | nil => exact ⟨rfl, db, hdb, rfl, fun robotId => by simp⟩
  | cons robot written ih =>
    rw [List.forM, ends_bind, persistRobotToDb]
    apply ends_of_ok (run_writeDb env (hrel.writes _) _)
    have hnext : (registry.written
        (fun db => { db with robots := db.robots.set robot.robotId robot.toRow })).host.db =
        some { db with robots := db.robots.set robot.robotId robot.toRow } := by
      simp [RobotRegistry.written, hdb]
    apply (ih _ hnext (fun other hother => hmem other (List.mem_cons_of_mem robot hother))).mono
    · rintro _ kept ⟨hrobots, db', hdb', hassignments, hrows⟩
      refine ⟨hrobots, db', hdb', hassignments, ?_⟩
      intro robotId
      simp only [hrows, List.map_cons, List.mem_cons, Dict.get?_set]
      have hown := hmem robot List.mem_cons_self
      by_cases hlater : robotId ∈ written.map RobotRecord.robotId
      · simp [hlater]
      · by_cases hself : robotId = robot.robotId
        · subst hself
          simp [hown]
        · simp [hlater, hself]
    · exact fun _ hfalse => hfalse

end RobotRegistry

section Opening

variable {env : Environment}

def blank (host : Host) : FleetState := ⟨⟨⟨Dict.empty, host⟩, Dict.empty, []⟩, Dict.empty⟩

def openFleet (env : Environment) : Call FleetState Unit := do
  onRegistry (RobotRegistry.init env none true)
  onDispatcher FleetDispatcher.init

def opened (env : Environment) (host : Host) : FleetState := final (openFleet env) (blank host)

def emptyDb : FleetDb := ⟨Dict.empty, AutoTable.empty⟩

structure JustOpened (env : Environment) (host : Host) (fleet : FleetState) : Prop
    extends Seeded env fleet where
  stocked : ∃ robotId, (fleet.registry.robots.get? robotId).isSome
  db_isSome : fleet.registry.host.db.isSome = host.db.isSome

lemma justOpened_of_default {host : Host} {registry : RobotRegistry}
    (hall : ∀ robotId robot, registry.robots.get? robotId = some robot →
      RobotRegistry.Default robotId robot)
    (hstocked : ∀ robotId ∈ defaultRobotIds, (registry.robots.get? robotId).isSome)
    (hbacked : FleetDispatcher.Backed env ⟨registry, Dict.empty, []⟩)
    (hsame : registry.host.db.isSome = host.db.isSome) :
    JustOpened env host ⟨⟨registry, Dict.empty, []⟩, Dict.empty⟩ := by
  refine ⟨⟨⟨⟨?_, ?_, ?_⟩, fun _ => rfl, fun _ => rfl, hbacked⟩, ?_⟩,
    ⟨"robot_01", hstocked _ (by simp [defaultRobotIds])⟩, hsame⟩
  · exact fun hget => (hall _ _ hget).robotId_eq
  · exact fun hget _ => (hall _ _ hget).currentTaskId_eq
  · intro robotId robot hget hactive
    rw [(hall robotId robot hget).state_eq] at hactive
    exact absurd hactive (by decide)
  · exact fun hget => ⟨(hall _ _ hget).state_eq, (hall _ _ hget).currentTaskId_eq⟩

lemma mirrors_persisted {robots : Dict String RobotRecord} {db : FleetDb}
    (hall : ∀ robotId robot, robots.get? robotId = some robot →
      RobotRegistry.Default robotId robot)
    (hassignments : db.assignments = AutoTable.empty)
    (hrows : ∀ robotId, db.robots.get? robotId =
      if robotId ∈ robots.sortedValues.map RobotRecord.robotId then
        (robots.get? robotId).map RobotRecord.toRow
      else none) :
    Mirrors db robots Dict.empty := by
  refine ⟨?_, ?_, ?_, ?_⟩
  · intro robotId
    rw [hrows]
    split_ifs with hlisted
    · rfl
    · cases hget : robots.get? robotId with
      | none => rfl
      | some robot =>
        have hrobot := (robots.mem_sortedValues robot).mpr ⟨robotId, hget⟩
        rw [← (hall robotId robot hget).robotId_eq] at hlisted
        exact absurd (List.mem_map_of_mem hrobot) hlisted
  · intro taskId
    rw [hassignments]
    rfl
  · intro row hrow
    rw [hassignments] at hrow
    simp [AutoTable.empty] at hrow
  · intro row hrow
    rw [hassignments] at hrow
    simp [AutoTable.empty] at hrow

theorem justOpened_opened {host : Host}
    (hdb : ∀ db, host.db = some db → db = emptyDb ∧ env.Reliable) :
    JustOpened env host (opened env host) := by
  have hends : Ends (openFleet env) (blank host) (fun _ => JustOpened env host)
      (JustOpened env host) := by
    obtain ⟨ticks, db⟩ := host
    simp only [openFleet, ends_bind, onRegistry, onDispatcher, FleetDispatcher.onRegistry,
      ends_focus, RobotRegistry.init, ends_get, blank, if_true]
    cases db with
    | none =>
      simp only [ends_bind]
      apply RobotRegistry.ends_seedDefaultRobots
      intro robots kept hall hstocked hrobots hkept
      simp only [FleetDispatcher.init, ends_bind, ends_modify, ends_get, hkept]
      refine justOpened_of_default hall hstocked ?_ ?_
      · intro db hsome
        simp [hkept] at hsome
      · simp [hkept]
    | some db =>
      obtain ⟨rfl, hrel⟩ := hdb db rfl
      have hload : loadRobotsFromDb emptyDb = .ok Dict.empty := rfl
      simp only [hload, ends_bind, ends_orRaise_ok]
      rw [if_neg (by simp [Dict.keys, Dict.empty])]
      simp only [ends_bind]
      apply RobotRegistry.ends_seedDefaultRobots
      intro robots kept hall hstocked hrobots hkept
      have hmem : ∀ robot ∈ robots.sortedValues, robots.get? robot.robotId = some robot := by
        intro robot hrobot
        obtain ⟨robotId, hget⟩ := (robots.mem_sortedValues robot).mp hrobot
        rw [(hall robotId robot hget).robotId_eq, hget]
      simp only [ends_modify, RobotRegistry.persistAll, ends_bind, ends_get, hkept,
        Option.isSome_some, if_true, RobotRegistry.listRobots]
      apply (RobotRegistry.ends_persistRobots ⟨robots, kept.host⟩ hrel hkept
        robots.sortedValues hmem).mono
      · rintro _ last ⟨hlast, db', hdb', hassignments, hrows⟩
        have hassigned : loadAssignmentsFromDb db' = .ok Dict.empty := by
          simp only [loadAssignmentsFromDb, hassignments]
          rfl
        simp only [FleetDispatcher.init, ends_bind, ends_get, hdb', hassigned, ends_orRaise_ok,
          ends_modify]
        obtain rfl : last.robots = robots := hlast
        apply justOpened_of_default hall hstocked
        · intro db'' hsome
          obtain rfl := Option.some.inj (hdb'.symm.trans hsome)
          exact ⟨hrel, mirrors_persisted hall hassignments hrows⟩
        · simp [hdb']
      · exact fun _ hfalse => hfalse.elim
  exact hends.final

def still : Environment where
  clock _ := ⟨true, 0⟩
  localTime := .ok
  fromisoformat _ := some ⟨true, 0⟩
  utcIsoformat _ := "1970-01-01T00:00:00+00:00"
  hypot _ _ := 0
  taskPoints := .ok (Dict.ofList (["start_zone", "shelf", "dock"].map fun station =>
    (station, ⟨some (.decimal 0), some (.decimal 0)⟩)))
  writeFails _ := false
  readFails _ := false

def beforeYearOne : Datetime := ⟨true, -62135613000000000⟩

def stillFleet (ops : List FleetOp) : FleetState :=
  runAll (step still) (opened still ⟨0, none⟩) ops

def newHaul (taskId : ℤ) : FleetOp := .createHaul taskId "shelf" "dock" "normal" none

def assignHaul (taskId : ℤ) : FleetOp :=
  .haul taskId (.assign ⟨true, 0⟩ defaultHeartbeatTimeoutSec)

lemma seeded_still : Seeded still (opened still ⟨0, none⟩) :=
  (justOpened_opened (by simp)).toSeeded

end Opening

end Fleet
