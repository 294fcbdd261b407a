import Mathlib.Data.Prod.Lex
import Mathlib.Data.String.Basic
import AmrWarehouse.Library.Greedy
import AmrWarehouse.Fleet.DispatcherCalls

/-! Which robots are candidates for a task, and which of them is chosen. -/

namespace Fleet

open Library

def Registered (robots : Dict String RobotRecord) : Prop :=
  ∀ robotId robot, robots.get? robotId = some robot → robot.robotId = robotId

section Stations

variable (env : Environment)

def located (stationName : String) : Bool :=
  match env.taskPoints with
  | .ok points => (stationXy points stationName).isOk
  | .error _ => false

/-- A coordinate of the station is a whole number that no double is near. -/
def oversized (stationName : String) : Bool :=
  match env.taskPoints with
  | .ok points =>
    match stationXy points stationName with
    | .ok _ => false
    | .error e => decide (e.kind = .overflowError)
  | .error _ => false

def charted (stationName : String) : Bool := located env stationName || oversized env stationName

/-- The heartbeat of every idle robot can be compared with the clock, and where it is valid the
coordinates of the robot's station have float values. -/
def Readable (robots : Dict String RobotRecord) (now : Datetime) (heartbeatTimeoutSec : Floating) :
    Prop :=
  ∀ robotId robot, robots.get? robotId = some robot → robot.state = .idle →
    ∃ valid, isHeartbeatValid env robot now heartbeatTimeoutSec = .ok valid ∧
      (valid = true → robot.currentStation.any (oversized env) = false)

variable {env} {robotStation : Option String} {pickupStation priority : String}
  {workloadPenalty : ℚ} {points : Dict String StationPoint}

lemma kind_of_floatOf {coordinate : Coordinate} {e : FleetError}
    (h : floatOf coordinate = .error e) : e.kind = .overflowError := by
  cases coordinate with
  | decimal value => simp [floatOf] at h
  | whole value =>
    rw [floatOf] at h
    split_ifs at h
    rw [← Except.error.inj h]

lemma kind_of_stationXy {stationName : String} {e : FleetError}
    (h : stationXy points stationName = .error e) :
    e.kind = .stationNotFound ∨ e.kind = .overflowError := by
  rw [stationXy] at h
  cases hget : points.get? stationName with
  | none =>
    rw [hget] at h
    exact .inl (by rw [← Except.error.inj h])
  | some point =>
    obtain ⟨x, y⟩ := point
    rw [hget] at h
    cases x with
    | none => exact .inl (by rw [← Except.error.inj h])
    | some x =>
      cases y with
      | none => exact .inl (by rw [← Except.error.inj h])
      | some y =>
        right
        cases hx : floatOf x with
        | error e' =>
          simp only [hx, bind, Except.bind, Except.error.injEq] at h
          exact h ▸ kind_of_floatOf hx
        | ok first =>
          cases hy : floatOf y with
          | error e' =>
            simp only [hx, hy, bind, Except.bind, Except.error.injEq] at h
            exact h ▸ kind_of_floatOf hy
          | ok second => simp [hx, hy, bind, Except.bind, pure, Except.pure] at h

lemma located_eq (hpoints : env.taskPoints = .ok points) (stationName : String) :
    located env stationName = (stationXy points stationName).isOk := by
  rw [located, hpoints]

lemma oversized_iff (hpoints : env.taskPoints = .ok points) {stationName : String} :
    oversized env stationName = true ↔
      ∃ e, stationXy points stationName = .error e ∧ e.kind = .overflowError := by
  simp only [oversized, hpoints]
  cases stationXy points stationName <;> simp

lemma not_oversized_of_located {stationName : String} (h : located env stationName = true) :
    oversized env stationName = false := by
  cases hpoints : env.taskPoints with
  | error e => rw [oversized, hpoints]
  | ok points =>
    rw [located_eq hpoints] at h
    simp only [oversized, hpoints]
    cases hxy : stationXy points stationName with
    | ok xy => rfl
    | error e => simp [hxy, Except.isOk, Except.toBool] at h

lemma cost_of_located (hrobot : robotStation.any (located env) = true)
    (hpickup : located env pickupStation = true) :
    ∃ cost reason, computeAssignmentCost env robotStation pickupStation priority workloadPenalty =
      .ok (cost, reason) := by
  cases hpoints : env.taskPoints with
  | error e => simp [located, hpoints] at hpickup
  | ok points =>
    cases robotStation with
    | none => simp at hrobot
    | some origin =>
      rw [Option.any_some, located_eq hpoints] at hrobot
      rw [located_eq hpoints] at hpickup
      cases horigin : stationXy points origin with
      | error e => simp [horigin, Except.isOk, Except.toBool] at hrobot
      | ok first =>
        cases htarget : stationXy points pickupStation with
        | error e => simp [htarget, Except.isOk, Except.toBool] at hpickup
        | ok second =>
          simp [computeAssignmentCost, staticStationDistance, hpoints, horigin, htarget, bind,
            Except.bind, pure, Except.pure]

lemma located_of_cost {cost : ℚ × String}
    (h : computeAssignmentCost env robotStation pickupStation priority workloadPenalty = .ok cost) :
    robotStation.any (located env) = true ∧ located env pickupStation = true := by
  rw [computeAssignmentCost, staticStationDistance] at h
  cases hpoints : env.taskPoints with
  | error e => simp [hpoints, bind, Except.bind] at h
  | ok points =>
    rw [hpoints] at h
    cases robotStation with
    | none => simp [bind, Except.bind] at h
    | some origin =>
      rw [Option.any_some, located_eq hpoints, located_eq hpoints]
      cases horigin : stationXy points origin with
      | error e => simp [horigin, bind, Except.bind] at h
      | ok first =>
        cases htarget : stationXy points pickupStation with
        | error e => simp [horigin, htarget, bind, Except.bind] at h
        | ok second => exact ⟨rfl, rfl⟩

lemma kind_of_cost {e : FleetError}
    (h : computeAssignmentCost env robotStation pickupStation priority workloadPenalty = .error e) :
    e.kind = .stationNotFound ∨ env.taskPoints = .error e ∨
      e.kind = .overflowError ∧ (robotStation.any (oversized env) = true ∨
        robotStation.any (located env) = true ∧ oversized env pickupStation = true) := by
  rw [computeAssignmentCost, staticStationDistance] at h
  cases hpoints : env.taskPoints with
  | error e' =>
    rw [hpoints] at h
    exact .inr (.inl (congrArg _ (Except.error.inj h)))
  | ok points =>
    rw [hpoints] at h
    cases robotStation with
    | none => exact .inl (by rw [← Except.error.inj h])
    | some origin =>
      rw [Option.any_some, Option.any_some, oversized_iff hpoints, oversized_iff hpoints,
        located_eq hpoints]
      cases horigin : stationXy points origin with
      | error e' =>
        simp only [horigin, bind, Except.bind] at h
        rw [← Except.error.inj h]
        rcases kind_of_stationXy horigin with hkind | hkind
        · exact .inl hkind
        · exact .inr (.inr ⟨hkind, .inl ⟨e', rfl, hkind⟩⟩)
      | ok first =>
        cases htarget : stationXy points pickupStation with
        | error e' =>
          simp only [horigin, htarget, bind, Except.bind] at h
          rw [← Except.error.inj h]
          rcases kind_of_stationXy htarget with hkind | hkind
          · exact .inl hkind
          · exact .inr (.inr ⟨hkind, .inr ⟨rfl, e', rfl, hkind⟩⟩)
        | ok second => simp [horigin, htarget, bind, Except.bind, pure, Except.pure] at h

lemma cost_of_oversized (h : robotStation.any (oversized env) = true) :
    ∃ e, computeAssignmentCost env robotStation pickupStation priority workloadPenalty = .error e ∧
      e.kind = .overflowError := by
  cases hpoints : env.taskPoints with
  | error e => cases robotStation <;> simp [oversized, hpoints] at h
  | ok points =>
    cases robotStation with
    | none => simp at h
    | some origin =>
      rw [Option.any_some, oversized_iff hpoints] at h
      obtain ⟨e, hxy, hkind⟩ := h
      refine ⟨e, ?_, hkind⟩
      simp [computeAssignmentCost, staticStationDistance, hpoints, hxy, bind, Except.bind]

lemma cost_of_oversized_pickup (hrobot : robotStation.any (located env) = true)
    (hpickup : oversized env pickupStation = true) :
    ∃ e, computeAssignmentCost env robotStation pickupStation priority workloadPenalty = .error e ∧
      e.kind = .overflowError := by
  cases hpoints : env.taskPoints with
  | error e => simp [oversized, hpoints] at hpickup
  | ok points =>
    cases robotStation with
    | none => simp at hrobot
    | some origin =>
      rw [Option.any_some, located_eq hpoints] at hrobot
      cases horigin : stationXy points origin with
      | error e => simp [horigin, Except.isOk, Except.toBool] at hrobot
      | ok first =>
        obtain ⟨e, htarget, hkind⟩ := (oversized_iff hpoints).mp hpickup
        refine ⟨e, ?_, hkind⟩
        simp [computeAssignmentCost, staticStationDistance, hpoints, horigin, htarget, bind,
          Except.bind]

end Stations

namespace FleetDispatcher

section Offers

variable (env : Environment) (now : Datetime) (timeout : Floating) (penalties : Dict String ℚ)

def eligible (robot : RobotRecord) : Bool :=
  decide (robot.state = .idle) &&
    (match isHeartbeatValid env robot now timeout with
      | .ok valid => valid
      | .error _ => false) &&
    robot.currentStation.any (located env)

def eligibleRobots (robots : Dict String RobotRecord) : List RobotRecord :=
  robots.sortedValues.filter (eligible env now timeout)

def costOf (task : DispatchTask) (robot : RobotRecord) : ℚ × String :=
  match computeAssignmentCost env robot.currentStation task.pickupStation task.priority
      ((penalties.get? robot.robotId).getD 0) with
  | .ok cost => cost
  | .error _ => (0, "")

def candidateOf (task : DispatchTask) (robot : RobotRecord) : DispatchCandidate :=
  ⟨robot.robotId, (costOf env penalties task robot).1, (costOf env penalties task robot).2⟩

def rank (task : DispatchTask) (robot : RobotRecord) : ℚ ×ₗ String :=
  toLex ((costOf env penalties task robot).1, robot.robotId)

variable {env now timeout penalties} {registry : RobotRegistry} {task : DispatchTask}
  {robot : RobotRecord}

lemma canAcceptTask_eq (hget : registry.robots.get? robot.robotId = some robot) :
    registry.canAcceptTask env robot.robotId (some now) timeout =
      if robot.state = .idle then isHeartbeatValid env robot now timeout else .ok false := by
  rw [RobotRegistry.canAcceptTask, hget]
  cases hstate : robot.state <;>
    simp [RobotRecord.hasActiveTask, activeTaskStates, dispatchableStates, hstate]

lemma candidate?_of_ok (hget : registry.robots.get? robot.robotId = some robot)
    {found : Option DispatchCandidate}
    (h : candidate? env registry task now timeout penalties robot = .ok found) :
    found = if eligible env now timeout robot ∧ located env task.pickupStation then
      some (candidateOf env penalties task robot) else none := by
  rw [candidate?, canAcceptTask_eq hget] at h
  by_cases hidle : robot.state = .idle
  · rw [if_pos hidle] at h
    cases hvalid : isHeartbeatValid env robot now timeout with
    | error e => simp [hvalid, bind, Except.bind] at h
    | ok valid =>
      cases valid with
      | false =>
        simp only [hvalid, bind, Except.bind, Bool.false_eq_true, if_false, pure, Except.pure,
          Except.ok.injEq] at h
        simp [← h, eligible, hvalid]
      | true =>
        simp only [hvalid, bind, Except.bind, if_true] at h
        cases hcost : computeAssignmentCost env robot.currentStation task.pickupStation
            task.priority ((penalties.get? robot.robotId).getD 0) with
        | ok cost =>
          obtain ⟨hrobot, hpickup⟩ := located_of_cost hcost
          simp only [hcost, pure, Except.pure, Except.ok.injEq] at h
          simp [← h, eligible, hidle, hvalid, hrobot, hpickup, candidateOf, costOf, hcost]
        | error e =>
          have hnone : found = none := by
            simp only [hcost] at h
            split_ifs at h
            exact (Except.ok.inj h).symm
          have hnot : ¬ (eligible env now timeout robot ∧ located env task.pickupStation) := by
            rintro ⟨heligible, hpickup⟩
            simp only [eligible, Bool.and_eq_true] at heligible
            have hok : ∃ cost reason, computeAssignmentCost env robot.currentStation
                task.pickupStation task.priority ((penalties.get? robot.robotId).getD 0) =
                  .ok (cost, reason) := cost_of_located heligible.2 hpickup
            obtain ⟨cost, reason, hok⟩ := hok
            rw [hok] at hcost
            simp at hcost
          rw [hnone, if_neg hnot]
  · rw [if_neg hidle] at h
    simp only [bind, Except.bind, Bool.false_eq_true, if_false, pure, Except.pure,
      Except.ok.injEq] at h
    simp [← h, eligible, hidle]

lemma candidate?_ok (hget : registry.robots.get? robot.robotId = some robot)
    (hreadable : Readable env registry.robots now timeout)
    (hpickup : located env task.pickupStation = true) :
    ∃ found, candidate? env registry task now timeout penalties robot = .ok found := by
  rw [candidate?, canAcceptTask_eq hget]
  by_cases hidle : robot.state = .idle
  · obtain ⟨valid, hvalid, hsmall⟩ := hreadable _ robot hget hidle
    rw [if_pos hidle, hvalid]
    cases valid with
    | false => exact ⟨none, rfl⟩
    | true =>
      simp only [bind, Except.bind, if_true]
      cases hcost : computeAssignmentCost env robot.currentStation task.pickupStation
          task.priority ((penalties.get? robot.robotId).getD 0) with
      | ok cost => exact ⟨_, rfl⟩
      | error e =>
        have hkind : e.kind = .stationNotFound := by
          rcases kind_of_cost hcost with hkind | hpoints | ⟨-, hrobot | ⟨-, htarget⟩⟩
          · exact hkind
          · simp [located, hpoints] at hpickup
          · rw [hsmall rfl] at hrobot
            cases hrobot
          · rw [not_oversized_of_located hpickup] at htarget
            cases htarget
        exact ⟨none, by simp [hkind, pure, Except.pure]⟩
  · rw [if_neg hidle]
    exact ⟨none, rfl⟩

lemma kind_of_heartbeat {e : FleetError} (h : isHeartbeatValid env robot now timeout = .error e) :
    e.kind = .valueError ∨ e.kind = .typeError := by
  rw [isHeartbeatValid] at h
  cases hlast : robot.lastHeartbeat with
  | none => simp [hlast] at h
  | some heartbeat =>
    simp only [hlast, Environment.parseTimestamp] at h
    cases hmoment : env.fromisoformat (replaceText heartbeat "Z" "+00:00") with
    | none =>
      simp only [hmoment, bind, Except.bind, Except.error.injEq] at h
      rw [← h]
      exact .inl rfl
    | some moment =>
      simp only [hmoment, bind, Except.bind, totalSeconds] at h
      split_ifs at h with haware
      · simp [pure, Except.pure] at h
      · simp only [Except.error.injEq] at h
        rw [← h]
        exact .inr rfl

lemma kind_of_canAcceptTask {robotId : String} {e : FleetError}
    (h : registry.canAcceptTask env robotId (some now) timeout = .error e) :
    e.kind = .valueError ∨ e.kind = .typeError := by
  rw [RobotRegistry.canAcceptTask] at h
  cases hget : registry.robots.get? robotId with
  | none => simp [hget] at h
  | some robot =>
    simp only [hget] at h
    split_ifs at h
    exact kind_of_heartbeat h

lemma kind_of_candidate {e : FleetError}
    (h : candidate? env registry task now timeout penalties robot = .error e) :
    e.kind = .valueError ∨ e.kind = .typeError ∨ e.kind = .overflowError ∨
      env.taskPoints = .error e := by
  rw [candidate?] at h
  cases haccepts : registry.canAcceptTask env robot.robotId (some now) timeout with
  | error e' =>
    simp only [haccepts, bind, Except.bind, Except.error.injEq] at h
    subst h
    exact (kind_of_canAcceptTask haccepts).imp_right .inl
  | ok accepts =>
    cases accepts with
    | false => simp [haccepts, bind, Except.bind, pure, Except.pure] at h
    | true =>
      simp only [haccepts, bind, Except.bind, if_true] at h
      cases hcost : computeAssignmentCost env robot.currentStation task.pickupStation
          task.priority ((penalties.get? robot.robotId).getD 0) with
      | ok cost => simp [hcost, pure, Except.pure] at h
      | error e' =>
        simp only [hcost] at h
        split_ifs at h with hkind
        · simp [pure, Except.pure] at h
        · obtain rfl := Except.error.inj h
          rcases (kind_of_cost hcost).resolve_left hkind with hpoints | ⟨hoverflow, -⟩
          · exact .inr (.inr (.inr hpoints))
          · exact .inr (.inr (.inl hoverflow))

lemma kind_of_selectRobot {e : FleetError}
    (h : selectRobot env registry task now timeout penalties = .error e) :
    e.kind = .valueError ∨ e.kind = .typeError ∨ e.kind = .overflowError ∨
      env.taskPoints = .error e := by
  rw [selectRobot, listCandidates] at h
  cases hfound : registry.listRobots.mapM
      (candidate? env registry task now timeout penalties) with
  | error e' =>
    simp only [hfound, bind, Except.bind, Except.error.injEq] at h
    subst h
    obtain ⟨robot, -, hrobot⟩ := exists_of_mapM_error hfound
    exact kind_of_candidate hrobot
  | ok found =>
    simp only [hfound, bind, Except.bind, pure, Except.pure] at h
    split at h <;> simp at h

lemma get?_of_listed (hnamed : Registered registry.robots) (h : robot ∈ registry.listRobots) :
    registry.robots.get? robot.robotId = some robot := by
  obtain ⟨robotId, hget⟩ := (registry.robots.mem_sortedValues robot).mp h
  rw [hnamed robotId robot hget, hget]

lemma readable_of_candidates (hnamed : Registered registry.robots)
    {found : List (Option DispatchCandidate)}
    (h : registry.listRobots.mapM (candidate? env registry task now timeout penalties) =
      .ok found) : Readable env registry.robots now timeout := by
  intro robotId robot hget hidle
  have hlisted : robot ∈ registry.listRobots :=
    (registry.robots.mem_sortedValues robot).mpr ⟨robotId, hget⟩
  obtain ⟨answer, hanswer⟩ := exists_of_mapM_ok h hlisted
  rw [candidate?, canAcceptTask_eq (get?_of_listed hnamed hlisted), if_pos hidle] at hanswer
  cases hvalid : isHeartbeatValid env robot now timeout with
  | error e => simp [hvalid, bind, Except.bind] at hanswer
  | ok valid =>
    refine ⟨valid, rfl, ?_⟩
    rintro rfl
    by_contra hlarge
    rw [Bool.not_eq_false] at hlarge
    have hraised : ∃ e, computeAssignmentCost env robot.currentStation task.pickupStation
        task.priority ((penalties.get? robot.robotId).getD 0) = .error e ∧
          e.kind = .overflowError := cost_of_oversized hlarge
    obtain ⟨e, hcost, hkind⟩ := hraised
    simp [hvalid, bind, Except.bind, hcost, hkind] at hanswer

lemma listCandidates_of_ok (hnamed : Registered registry.robots)
    {candidates : List DispatchCandidate}
    (h : listCandidates env registry task now timeout penalties = .ok candidates) :
    candidates = if located env task.pickupStation then
      ((eligibleRobots env now timeout registry.robots).map
        (candidateOf env penalties task)).insertionSort before else [] := by
  rw [listCandidates] at h
  cases hfound : registry.listRobots.mapM
      (candidate? env registry task now timeout penalties) with
  | error e => simp [hfound, bind, Except.bind] at h
  | ok found =>
    have heach : ∀ robots : List RobotRecord, ∀ found,
        (∀ robot ∈ robots, registry.robots.get? robot.robotId = some robot) →
        robots.mapM (candidate? env registry task now timeout penalties) = .ok found →
        found.filterMap id = if located env task.pickupStation then
          (robots.filter (eligible env now timeout)).map (candidateOf env penalties task)
          else [] := by
      intro robots
      induction robots with
      | nil =>
        rintro found - hnil
        rw [List.mapM_nil] at hnil
        rw [← Except.ok.inj hnil]
        simp
      | cons robot robots ih =>
        intro found hall hmap
        obtain ⟨first, rest, hfirst, hrest, rfl⟩ := mapM_cons_ok hmap
        have hlater := ih rest (fun r hr => hall r (List.mem_cons_of_mem robot hr)) hrest
        have hoffer := candidate?_of_ok (hall robot List.mem_cons_self) hfirst
        rw [List.filterMap_cons, hlater, hoffer]
        by_cases hpickup : located env task.pickupStation = true
        · by_cases heligible : eligible env now timeout robot = true
          · simp [hpickup, heligible]
          · simp [hpickup, heligible]
        · simp [hpickup]
    simp only [hfound, bind, Except.bind, pure, Except.pure, Except.ok.injEq] at h
    rw [← h, heach registry.listRobots found (fun _ hr => get?_of_listed hnamed hr) hfound]
    split_ifs
    · rfl
    · rfl

lemma listCandidates_eq (hnamed : Registered registry.robots)
    (hreadable : Readable env registry.robots now timeout)
    (hpickup : located env task.pickupStation = true) :
    listCandidates env registry task now timeout penalties =
      .ok (((eligibleRobots env now timeout registry.robots).map
        (candidateOf env penalties task)).insertionSort before) := by
  have hok : ∃ found, registry.listRobots.mapM
      (candidate? env registry task now timeout penalties) = .ok found :=
    mapM_ok fun robot hr => candidate?_ok (get?_of_listed hnamed hr) hreadable hpickup
  obtain ⟨found, hfound⟩ := hok
  have hlist : listCandidates env registry task now timeout penalties =
      .ok ((found.filterMap id).insertionSort before) := by
    rw [listCandidates, hfound]
    rfl
  rw [hlist, listCandidates_of_ok hnamed hlist, if_pos hpickup]

lemma before_iff {a b : DispatchCandidate} :
    before a b ↔ toLex (a.cost, a.robotId) ≤ toLex (b.cost, b.robotId) := by
  rw [Prod.Lex.toLex_le_toLex, before]

instance : Std.Total before where
  total a b := by
    rw [before_iff, before_iff]
    exact le_total _ _

instance : IsTrans DispatchCandidate before where
  trans a b c hab hbc := by
    rw [before_iff] at *
    exact hab.trans hbc

lemma nodup_eligibleRobots (hnamed : Registered registry.robots) :
    (eligibleRobots env now timeout registry.robots).Nodup := by
  have hkeys := Dict.map_sortedValues hnamed
  exact (List.Nodup.of_map RobotRecord.robotId (hkeys ▸ Dict.nodup_sortedKeys _)).filter _

lemma get?_of_eligible (hnamed : Registered registry.robots)
    (h : robot ∈ eligibleRobots env now timeout registry.robots) :
    registry.robots.get? robot.robotId = some robot :=
  get?_of_listed hnamed (List.mem_of_mem_filter h)

lemma rank_injective (hnamed : Registered registry.robots) {other : RobotRecord}
    (h : robot ∈ eligibleRobots env now timeout registry.robots)
    (hother : other ∈ eligibleRobots env now timeout registry.robots)
    (hrank : rank env penalties task other = rank env penalties task robot) : other = robot := by
  have hname : other.robotId = robot.robotId := congrArg (fun r => (ofLex r).2) hrank
  have hget := get?_of_eligible hnamed hother
  rw [hname, get?_of_eligible hnamed h] at hget
  exact (Option.some.inj hget).symm

lemma head_candidates (hnamed : Registered registry.robots) :
    (((eligibleRobots env now timeout registry.robots).map
        (candidateOf env penalties task)).insertionSort before).head? =
      ((eligibleRobots env now timeout registry.robots).argmin (rank env penalties task)).map
        (candidateOf env penalties task) := by
  set robots := eligibleRobots env now timeout registry.robots with hrobots
  have hsorted := List.pairwise_insertionSort before (robots.map (candidateOf env penalties task))
  cases hlist : (robots.map (candidateOf env penalties task)).insertionSort before with
  | nil =>
    have hnone : robots = [] := by
      have hlength := List.length_insertionSort before (robots.map (candidateOf env penalties task))
      rw [hlist, List.length_map, List.length_nil] at hlength
      exact List.eq_nil_of_length_eq_zero hlength.symm
    simp [hnone]
  | cons best others =>
    have hmem : best ∈ robots.map (candidateOf env penalties task) := by
      rw [← List.mem_insertionSort before, hlist]
      exact List.mem_cons_self
    obtain ⟨robot, hrobot, rfl⟩ := List.mem_map.mp hmem
    rw [hlist, List.pairwise_cons] at hsorted
    have hleast : ∀ other ∈ robots,
        rank env penalties task robot ≤ rank env penalties task other := by
      intro other hother
      have hin : candidateOf env penalties task other ∈
          (robots.map (candidateOf env penalties task)).insertionSort before := by
        rw [List.mem_insertionSort]
        exact List.mem_map_of_mem hother
      rw [hlist] at hin
      rcases List.mem_cons.mp hin with heq | hlater
      · have hname : other.robotId = robot.robotId := congrArg DispatchCandidate.robotId heq
        have hcost : (costOf env penalties task other).1 = (costOf env penalties task robot).1 :=
          congrArg DispatchCandidate.cost heq
        rw [rank, rank, hname, hcost]
      · exact before_iff.mp (hsorted.1 _ hlater)
    have hmin : robot ∈ robots.argmin (rank env penalties task) :=
      mem_argmin hrobot hleast fun other hother heq => rank_injective hnamed hrobot hother heq
    rw [Option.mem_def.mp hmin]
    rfl

def decisionFor (task : DispatchTask) (candidate : DispatchCandidate) : DispatchDecision :=
  ⟨task.taskId, candidate.robotId, task.pickupStation, candidate.cost, candidate.dispatchReason⟩

lemma selectRobot_eq_head {candidates : List DispatchCandidate}
    (h : listCandidates env registry task now timeout penalties = .ok candidates) :
    selectRobot env registry task now timeout penalties =
      .ok (candidates.head?.map (decisionFor task)) := by
  rw [selectRobot, h]
  cases candidates with
  | nil => rfl
  | cons best others => rfl

lemma selectRobot_eq (hnamed : Registered registry.robots)
    (hreadable : Readable env registry.robots now timeout)
    (hpickup : located env task.pickupStation = true) :
    selectRobot env registry task now timeout penalties =
      .ok (((eligibleRobots env now timeout registry.robots).argmin
        (rank env penalties task)).map fun robot =>
          decisionFor task (candidateOf env penalties task robot)) := by
  rw [selectRobot_eq_head (listCandidates_eq hnamed hreadable hpickup), head_candidates hnamed,
    Option.map_map]
  rfl

lemma none_of_selectRobot (hnamed : Registered registry.robots)
    {choice : Option DispatchDecision}
    (h : selectRobot env registry task now timeout penalties = .ok choice) :
    Readable env registry.robots now timeout ∧
      (choice = none ↔ located env task.pickupStation = false ∨
        eligibleRobots env now timeout registry.robots = []) := by
  rw [selectRobot] at h
  cases hlist : listCandidates env registry task now timeout penalties with
  | error e => simp [hlist, bind, Except.bind] at h
  | ok candidates =>
    have hfound := hlist
    rw [listCandidates] at hfound
    cases hmap : registry.listRobots.mapM
        (candidate? env registry task now timeout penalties) with
    | error e => simp [hmap, bind, Except.bind] at hfound
    | ok found =>
      refine ⟨readable_of_candidates hnamed hmap, ?_⟩
      have hchoice : choice = candidates.head?.map (decisionFor task) := by
        have heq := selectRobot_eq_head hlist
        rw [selectRobot, h] at heq
        exact Except.ok.inj heq
      rw [hchoice, listCandidates_of_ok hnamed hlist]
      cases hpickup : located env task.pickupStation with
      | false => simp
      | true =>
        rw [if_pos rfl, head_candidates hnamed]
        simp [List.argmin_eq_none]

lemma eligibleRobots_of_oversized (hnamed : Registered registry.robots)
    (hlarge : oversized env task.pickupStation = true) {candidates : List DispatchCandidate}
    (h : listCandidates env registry task now timeout penalties = .ok candidates) :
    eligibleRobots env now timeout registry.robots = [] := by
  rw [List.eq_nil_iff_forall_not_mem]
  intro robot hrobot
  have hget := get?_of_eligible hnamed hrobot
  have heligible := List.of_mem_filter hrobot
  simp only [eligible, Bool.and_eq_true, decide_eq_true_eq] at heligible
  obtain ⟨⟨hidle, hheartbeat⟩, hstation⟩ := heligible
  have hraised : ∃ e, computeAssignmentCost env robot.currentStation task.pickupStation
      task.priority ((penalties.get? robot.robotId).getD 0) = .error e ∧
        e.kind = .overflowError := cost_of_oversized_pickup hstation hlarge
  obtain ⟨e, hcost, hkind⟩ := hraised
  rw [listCandidates] at h
  cases hfound : registry.listRobots.mapM
      (candidate? env registry task now timeout penalties) with
  | error e => simp [hfound, bind, Except.bind] at h
  | ok found =>
    obtain ⟨answer, hanswer⟩ := exists_of_mapM_ok hfound (List.mem_of_mem_filter hrobot)
    rw [candidate?, canAcceptTask_eq hget, if_pos hidle] at hanswer
    cases hvalid : isHeartbeatValid env robot now timeout with
    | error e => simp [hvalid] at hheartbeat
    | ok valid =>
      rw [hvalid] at hheartbeat
      obtain rfl : valid = true := hheartbeat
      simp [hvalid, bind, Except.bind, hcost, hkind] at hanswer

lemma uncharted_of_none (hnamed : Registered registry.robots)
    (h : selectRobot env registry task now timeout penalties = .ok none) :
    charted env task.pickupStation = false ∨
      eligibleRobots env now timeout registry.robots = [] := by
  cases hlarge : oversized env task.pickupStation with
  | false => simpa [charted, hlarge] using (none_of_selectRobot hnamed h).2.mp rfl
  | true =>
    rw [selectRobot] at h
    cases hlist : listCandidates env registry task now timeout penalties with
    | error e => simp [hlist, bind, Except.bind] at h
    | ok candidates => exact .inr (eligibleRobots_of_oversized hnamed hlarge hlist)

end Offers

end FleetDispatcher

end Fleet
