import AmrWarehouse.Fleet.FleetRuns

/-! Which robots can be brought back to idle. -/

namespace Fleet

open Library

def RobotRegistry.step (env : Environment) (registry : RobotRegistry) (op : RegistryOp) :
    RobotRegistry :=
  final (op.call env) registry

def Recoverable (env : Environment) (registry : RobotRegistry) (robotId : String) : Prop :=
  ∃ ops robot, (runAll (RobotRegistry.step env) registry ops).robots.get? robotId = some robot ∧
    robot.state = .idle ∧ robot.currentTaskId = none

def Stranded (registry : RobotRegistry) (robotId : String) : Prop :=
  ∃ robot, registry.robots.get? robotId = some robot ∧ robot.state ∈ [.offline, .error] ∧
    robot.currentTaskId ≠ none

def Strands (registry : RobotRegistry) (op : RegistryOp) : Prop :=
  ∃ robotId robot, (op = .markOffline robotId ∨ op = .markError robotId) ∧
    registry.robots.get? robotId = some robot ∧ robot.state ∈ activeTaskStates

section Effects

variable {op : RegistryOp} {robot moved : RobotRecord}

lemma RegistryOp.Effect.stranded (h : op.Effect robot moved)
    (hstate : robot.state ∈ [RobotState.offline, .error]) (htask : robot.currentTaskId ≠ none) :
    moved.state ∈ [RobotState.offline, .error] ∧ moved.currentTaskId ≠ none := by
  cases op <;> cases hs : robot.state <;> simp_all [RegistryOp.Effect, activeTaskStates]

lemma RegistryOp.Effect.not_stranded (h : op.Effect robot moved)
    (hidle : robot.state = .idle → robot.currentTaskId = none)
    (hnot : ¬ (robot.state ∈ [RobotState.offline, .error] ∧ robot.currentTaskId ≠ none))
    (hop : ∀ robotId, op = .markOffline robotId ∨ op = .markError robotId →
      robot.state ∉ activeTaskStates) :
    ¬ (moved.state ∈ [RobotState.offline, .error] ∧ moved.currentTaskId ≠ none) := by
  cases op <;> cases hs : robot.state <;> simp_all [RegistryOp.Effect, activeTaskStates]

end Effects

structure RobotRegistry.Sound (env : Environment) (registry : RobotRegistry) : Prop where
  consistent : Consistent registry.robots
  dependable : registry.Dependable env

section Steps

variable {env : Environment} {registry : RobotRegistry}

lemma RegistryOp.Outcome.sound {op : RegistryOp} {after : RobotRegistry}
    (h : op.Outcome registry after) (hs : registry.Sound env) : after.Sound env := by
  cases h with
  | same => exact hs
  | @stored robot moved kept hget heffect hname hkept hdb =>
    have hkey : moved.robotId = op.robotId := hname.trans (hs.consistent.named hget)
    refine ⟨?_, ?_⟩
    · rw [RobotRegistry.stored_robots, hkept, hkey]
      exact heffect.consistent hs.consistent hget hname
    · intro hsome
      rw [RobotRegistry.stored_db_isSome, hdb] at hsome
      exact hs.dependable hsome

lemma RobotRegistry.Sound.step (hs : registry.Sound env) (op : RegistryOp) :
    (registry.step env op).Sound env :=
  (op.call_outcome hs.dependable).sound hs

lemma RobotRegistry.Sound.runAll (hs : registry.Sound env) (ops : List RegistryOp) :
    (runAll (RobotRegistry.step env) registry ops).Sound env := by
  induction ops generalizing registry with
  | nil => exact hs
  | cons op ops ih => exact ih (hs.step op)

lemma Stranded.step (hs : registry.Sound env) {robotId : String} (h : Stranded registry robotId)
    (op : RegistryOp) : Stranded (registry.step env op) robotId := by
  obtain ⟨robot, hget, hstate, htask⟩ := h
  have houtcome := op.call_outcome hs.dependable
  rw [RobotRegistry.step]
  generalize final (op.call env) registry = after at houtcome
  cases houtcome with
  | same => exact ⟨robot, hget, hstate, htask⟩
  | @stored own moved kept hown heffect hname hkept _ =>
    have hkey : moved.robotId = op.robotId := hname.trans (hs.consistent.named hown)
    by_cases hid : robotId = op.robotId
    · subst hid
      obtain rfl := Option.some.inj (hget.symm.trans hown)
      obtain ⟨hstate', htask'⟩ := heffect.stranded hstate htask
      exact ⟨moved, by rw [RobotRegistry.stored_robots, hkey, Dict.get?_set_self], hstate', htask'⟩
    · refine ⟨robot, ?_, hstate, htask⟩
      rw [RobotRegistry.stored_robots, hkey, Dict.get?_set_of_ne _ _ hid, hkept, hget]

lemma Stranded.not_recoverable (hs : registry.Sound env) {robotId : String}
    (h : Stranded registry robotId) : ¬ Recoverable env registry robotId := by
  rintro ⟨ops, robot, hget, hidle, hfree⟩
  have hlast : Stranded (runAll (RobotRegistry.step env) registry ops) robotId := by
    clear hget
    induction ops generalizing registry with
    | nil => exact h
    | cons op ops ih => exact ih (hs.step op) (h.step hs op)
  obtain ⟨other, hother, _, htask⟩ := hlast
  obtain rfl := Option.some.inj (hget.symm.trans hother)
  exact htask hfree

lemma recoverable_of_not_stranded (hs : registry.Sound env) {robotId : String}
    (hknown : (registry.robots.get? robotId).isSome) (h : ¬ Stranded registry robotId) :
    Recoverable env registry robotId := by
  obtain ⟨robot, hget⟩ := Option.isSome_iff_exists.mp hknown
  have hname := hs.consistent.named hget
  by_cases hidle : robot.state = .idle
  · exact ⟨[], robot, hget, hidle, hs.consistent.idle_free hget hidle⟩
  · by_cases hactive : robot.state ∈ activeTaskStates
    · have hrun := RobotRegistry.run_releaseTask env hs.dependable hget hactive
      refine ⟨[.releaseTask robotId],
        registry.stamped env { robot with state := .idle, currentTaskId := none }, ?_, rfl, rfl⟩
      rw [runAll_cons, runAll_nil, RobotRegistry.step, RegistryOp.call, final_of_ok hrun,
        RobotRegistry.put_robots, hname, Dict.get?_set_self]
    · have hoff : robot.state ∈ [RobotState.offline, .error] := by
        cases hstate : robot.state <;> simp_all [activeTaskStates]
      have hfree : robot.currentTaskId = none := by
        by_contra htask
        exact h ⟨robot, hget, hoff, htask⟩
      have hrun := RobotRegistry.run_recoverToIdle env hs.dependable hget hfree hidle
      refine ⟨[.recoverToIdle robotId],
        registry.stamped env { robot with state := .idle, currentTaskId := none }, ?_, rfl, rfl⟩
      rw [runAll_cons, runAll_nil, RobotRegistry.step, RegistryOp.call, final_of_ok hrun,
        RobotRegistry.put_robots, hname, Dict.get?_set_self]

lemma stranded_step_iff (hs : registry.Sound env) (h : ∀ robotId, ¬ Stranded registry robotId)
    (op : RegistryOp) :
    (∀ robotId, ¬ Stranded (registry.step env op) robotId) ↔ ¬ Strands registry op := by
  constructor
  · rintro hafter ⟨robotId, robot, hop, hget, hactive⟩
    have htask := hs.consistent.active_bound hget hactive
    have hname := hs.consistent.named hget
    apply hafter robotId
    rcases hop with rfl | rfl
    · have hoff : robot.state ≠ .offline := by
        rintro hstate
        simp [hstate, activeTaskStates] at hactive
      have hrun := RobotRegistry.run_markOffline env hs.dependable hget hoff
      refine ⟨registry.stamped env { robot with state := .offline }, ?_, ?_, htask⟩
      · rw [RobotRegistry.step, RegistryOp.call, final_of_ok hrun, RobotRegistry.put_robots, hname,
          Dict.get?_set_self]
      · simp [RobotRegistry.stamped]
    · have herr : robot.state ≠ .error := by
        rintro hstate
        simp [hstate, activeTaskStates] at hactive
      have hrun := RobotRegistry.run_markError env hs.dependable hget herr
      refine ⟨registry.stamped env { robot with state := .error }, ?_, ?_, htask⟩
      · rw [RobotRegistry.step, RegistryOp.call, final_of_ok hrun, RobotRegistry.put_robots, hname,
          Dict.get?_set_self]
      · simp [RobotRegistry.stamped]
  · rintro hop robotId ⟨robot, hget, hstate, htask⟩
    have houtcome := op.call_outcome hs.dependable
    rw [RobotRegistry.step] at hget
    generalize final (op.call env) registry = after at houtcome hget
    cases houtcome with
    | same => exact h robotId ⟨robot, hget, hstate, htask⟩
    | @stored own moved kept hown heffect hname hkept _ =>
      have hkey : moved.robotId = op.robotId := hname.trans (hs.consistent.named hown)
      rw [RobotRegistry.stored_robots, hkey, hkept, Dict.get?_set] at hget
      split at hget
      · obtain rfl := Option.some.inj hget
        refine heffect.not_stranded (hs.consistent.idle_free hown)
          (fun hbefore => h op.robotId ⟨own, hown, hbefore⟩) ?_ ⟨hstate, htask⟩
        rintro id hid hactive
        refine hop ⟨id, own, hid, ?_, hactive⟩
        rcases hid with rfl | rfl
        · exact hown
        · exact hown
      · exact h robotId ⟨robot, hget, hstate, htask⟩

end Steps

section Runs

variable {env : Environment} {start : FleetState}

def AllRecoverable (env : Environment) (registry : RobotRegistry) : Prop :=
  ∀ robotId, (registry.robots.get? robotId).isSome → Recoverable env registry robotId

lemma allRecoverable_iff {registry : RobotRegistry} (hs : registry.Sound env) :
    AllRecoverable env registry ↔ ∀ robotId, ¬ Stranded registry robotId := by
  constructor
  · intro hall robotId hstranded
    obtain ⟨robot, hget, _⟩ := id hstranded
    exact hstranded.not_recoverable hs (hall robotId (by simp [hget]))
  · intro hnone robotId hknown
    exact recoverable_of_not_stranded hs hknown (hnone robotId)

lemma Seeded.registry_sound (h : Seeded env start) : start.registry.Sound env :=
  ⟨h.consistent, h.backed.dependable⟩

/-- Along a run of registry calls every robot stays recoverable exactly if no call takes a robot out
of its work with its task. -/
theorem recoverable_iff_not_strands (hstart : Seeded env start) (ops : List RegistryOp) :
    Always (RobotRegistry.step env) (AllRecoverable env) start.registry ops ↔
      Guarded (RobotRegistry.step env) (fun registry op => ¬ Strands registry op) start.registry
        ops := by
  apply always_iff_guarded (RobotRegistry.Sound env)
  · exact fun registry op hs _ => hs.step op
  · intro registry op hs _ hall
    rw [allRecoverable_iff (hs.step op)]
    exact stranded_step_iff hs ((allRecoverable_iff hs).mp hall) op
  · exact hstart.registry_sound
  · rw [allRecoverable_iff hstart.registry_sound]
    rintro robotId ⟨robot, hget, _, htask⟩
    exact htask (hstart.idle hget).2
  · exact guarded_of_forall (fun _ _ => trivial) _ ops

theorem recoverable_iff_not_strands_still :
    Always (RobotRegistry.step still) (AllRecoverable still) (opened still ⟨0, none⟩).registry
        [.markError "robot_01"] ↔
      Guarded (RobotRegistry.step still) (fun registry op => ¬ Strands registry op)
        (opened still ⟨0, none⟩).registry [.markError "robot_01"] :=
  recoverable_iff_not_strands seeded_still [.markError "robot_01"]

theorem offline_at_work_not_recoverable :
    ¬ AllRecoverable still (runAll (RobotRegistry.step still) (opened still ⟨0, none⟩).registry
      [.assignTask "robot_01" 1, .markOffline "robot_01"]) := by
  intro hall
  have hknown : ((runAll (RobotRegistry.step still) (opened still ⟨0, none⟩).registry
      [.assignTask "robot_01" 1, .markOffline "robot_01"]).robots.get? "robot_01").map
      (fun robot => (robot.state, robot.currentTaskId)) = some (.offline, some 1) := by
    decide +kernel
  obtain ⟨robot, hget, hrobot⟩ := Option.map_eq_some_iff.mp hknown
  rw [Prod.mk.injEq] at hrobot
  have hstranded : Stranded (runAll (RobotRegistry.step still) (opened still ⟨0, none⟩).registry
      [.assignTask "robot_01" 1, .markOffline "robot_01"]) "robot_01" :=
    ⟨robot, hget, by simp [hrobot.1], by simp [hrobot.2]⟩
  exact hstranded.not_recoverable (seeded_still.registry_sound.runAll _)
    (hall "robot_01" (Option.isSome_iff_exists.mpr ⟨robot, hget⟩))

end Runs

end Fleet
