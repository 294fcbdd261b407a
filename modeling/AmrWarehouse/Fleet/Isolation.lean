import AmrWarehouse.Fleet.FleetRuns

/-! Which records an operation of one haul leaves to the others. -/

namespace Fleet

open Library

def Bound (view : FleetView) : Prop :=
  ∀ taskId snapshot robotId, view.snapshot? taskId = some snapshot →
    snapshot.wmsStatus ∈ [.assigned, .inProgress] → snapshot.robotId = some robotId →
    ∃ robot, view.board.robots.get? robotId = some robot ∧ robot.currentTaskId = some taskId

def Strays (view : FleetView) (label : FleetLabel) : Prop :=
  ∃ taskId reason raised snapshot robotId robot, label = .haul taskId (.fail reason) raised ∧
    view.snapshot? taskId = some snapshot ∧ snapshot.wmsStatus ∈ terminalWmsStatuses ∧
    snapshot.robotId = some robotId ∧ view.board.robots.get? robotId = some robot ∧
    robot.state ∈ activeTaskStates ∧ robot.currentTaskId ≠ some taskId

lemma Closing.not_working {snapshot : HaulTaskSnapshot} {op : HaulOp} {wmsStatus : WmsTaskStatus}
    {phase : HaulExecutionPhase} {status : AssignmentStatus}
    (h : Closing snapshot op wmsStatus phase status) :
    wmsStatus ∉ [WmsTaskStatus.assigned, .inProgress] := by
  cases h <;> decide

section Moves

variable {env : Environment} {view view' : FleetView}

lemma Bound.robots (h : Bound view) {board' : Board}
    (hkeeps : KeepsTasks view.board.robots board'.robots) : Bound ⟨board', view.snapshot?⟩ := by
  intro taskId snapshot robotId hget hworking hrobot
  obtain ⟨robot, hknown, htask⟩ := h taskId snapshot robotId hget hworking hrobot
  obtain ⟨moved, hmoved, hsame⟩ := hkeeps robotId robot hknown
  exact ⟨moved, hmoved, hsame.trans htask⟩

lemma Bound.takes (h : Bound view) (hc : Consistent view.board.robots) {board' : Board}
    {taskId : ℤ} {taken : String}
    (htakes : Takes view.board.robots board'.robots taken taskId) :
    Bound ⟨board', view.snapshot?⟩ := by
  intro other snapshot robotId hsnapshot hworking hrobot
  obtain ⟨own, hown, htask⟩ := h other snapshot robotId hsnapshot hworking hrobot
  exact ⟨own, htakes.kept hc hown htask, htask⟩

lemma Bound.frees (h : Bound view) {robots : Dict String RobotRecord} {robotId : String}
    (hfree : Frees view.board.robots robots robotId)
    {other : ℤ} {snapshot : HaulTaskSnapshot} {id : String}
    (hsnapshot : view.snapshot? other = some snapshot)
    (hworking : snapshot.wmsStatus ∈ [.assigned, .inProgress]) (hrobot : snapshot.robotId = some id)
    (hothers : ∀ robot, view.board.robots.get? robotId = some robot →
      robot.state ∈ activeTaskStates → robot.currentTaskId ≠ some other) :
    ∃ robot, robots.get? id = some robot ∧ robot.currentTaskId = some other := by
  obtain ⟨own, hown, htask⟩ := h other snapshot id hsnapshot hworking hrobot
  by_cases hne : id = robotId
  · subst hne
    obtain ⟨robot, hget, ⟨_, rfl⟩ | ⟨hactive, _⟩⟩ := hfree
    · exact ⟨own, hown, htask⟩
    · obtain rfl := Option.some.inj (hget.symm.trans hown)
      exact absurd htask (hothers robot hget hactive)
  · exact ⟨own, by rw [hfree.get?_of_ne hne, hown], htask⟩

lemma bound_update {board' : Board} {taskId : ℤ} {snapshot' : HaulTaskSnapshot}
    (hown : ∀ robotId, snapshot'.wmsStatus ∈ [.assigned, .inProgress] →
      snapshot'.robotId = some robotId →
      ∃ robot, board'.robots.get? robotId = some robot ∧ robot.currentTaskId = some taskId)
    (hothers : ∀ other snapshot robotId, other ≠ taskId → view.snapshot? other = some snapshot →
      snapshot.wmsStatus ∈ [.assigned, .inProgress] → snapshot.robotId = some robotId →
      ∃ robot, board'.robots.get? robotId = some robot ∧ robot.currentTaskId = some other) :
    Bound ⟨board', Function.update view.snapshot? taskId (some snapshot')⟩ := by
  intro other snapshot robotId hsnapshot hworking hrobot
  dsimp only at hsnapshot
  rw [Function.update_apply] at hsnapshot
  split_ifs at hsnapshot with heq
  · subst heq
    obtain rfl := Option.some.inj hsnapshot
    exact hown robotId hworking hrobot
  · exact hothers other snapshot robotId heq hsnapshot hworking hrobot

lemma Bound.haul (h : Bound view) (hs : Sound view) {taskId : ℤ} {op : HaulOp} {raised : Bool}
    {snapshot snapshot' : HaulTaskSnapshot} {board' : Board}
    (hget : view.snapshot? taskId = some snapshot)
    (hmove : HaulMove env snapshot view.board op raised snapshot' board')
    (hguard : ¬ Strays view (.haul taskId op raised)) :
    Bound ⟨board', Function.update view.snapshot? taskId (some snapshot')⟩ := by
  have hkept : ∀ {board' : Board}, KeepsTasks view.board.robots board'.robots →
      ∀ other snapshot robotId, other ≠ taskId → view.snapshot? other = some snapshot →
      snapshot.wmsStatus ∈ [.assigned, .inProgress] → snapshot.robotId = some robotId →
      ∃ robot, board'.robots.get? robotId = some robot ∧ robot.currentTaskId = some other :=
    fun hkeeps other s robotId _ hs hw hr => h.robots hkeeps other s robotId hs hw hr
  have hself : ∀ {board' : Board}, KeepsTasks view.board.robots board'.robots →
      snapshot.wmsStatus ∈ [.assigned, .inProgress] → ∀ robotId, snapshot.robotId = some robotId →
      ∃ robot, board'.robots.get? robotId = some robot ∧ robot.currentTaskId = some taskId :=
    fun hkeeps hworking robotId hrobot =>
      h.robots hkeeps taskId snapshot robotId hget hworking hrobot
  cases hmove with
  | refused _ _ =>
    exact bound_update (fun robotId hworking => hself (.refl _) hworking robotId)
      (hkept (.refl _))
  | rephased _ _ _ _ _ _ =>
    exact bound_update (fun robotId hworking => hself (.refl _) hworking robotId)
      (hkept (.refl _))
  | halfStarted _ hwms _ _ =>
    exact bound_update (fun robotId _ => hself (.refl _) (by simp [hwms]) robotId)
      (hkept (.refl _))
  | assigned _ _ _ hbinds =>
    apply bound_update
    · intro robotId _ hrobot
      obtain rfl := Option.some.inj hrobot
      obtain ⟨_, moved, _, _, _, _, htask, hafter⟩ := hbinds.robot
      rw [hs.owned hget] at htask
      exact ⟨moved, by rw [hafter, Dict.get?_set_self], htask⟩
    · intro other s robotId _ hsnapshot hworking hrobot
      exact h.takes hs.consistent hbinds.robot other s robotId hsnapshot hworking hrobot
  | orphaned _ hgives _ horphans =>
    obtain ⟨_, htakes⟩ := horphans.robot
    have hbound := h.takes hs.consistent htakes
    exact bound_update (fun robotId => hbound taskId snapshot robotId hget)
      (fun other s robotId _ => hbound other s robotId)
  | started _ hwms _ _ _ htouch =>
    exact bound_update (fun robotId _ => hself htouch.keepsTasks (by simp [hwms]) robotId)
      (hkept htouch.keepsTasks)
  | arrived _ hwms _ _ _ htouch =>
    exact bound_update (fun robotId _ => hself htouch.keepsTasks (by simp [hwms]) robotId)
      (hkept htouch.keepsTasks)
  | loaded _ hwms _ =>
    exact bound_update (fun robotId _ => hself (.refl _) (by simp [hwms]) robotId)
      (hkept (.refl _))
  | closed _ hworking hclosing hrobot _ hfree =>
    apply bound_update
    · intro robotId hworking'
      exact absurd hworking' hclosing.not_working
    · intro other s id hne hsnapshot hworking' hrobot'
      apply h.frees hfree hsnapshot hworking' hrobot'
      obtain ⟨own, hown, htask⟩ := h taskId snapshot _ hget hworking hrobot
      intro robot hrobot _ htask'
      obtain rfl := Option.some.inj (hown.symm.trans hrobot)
      exact hne (Option.some.inj (htask'.symm.trans htask))
  | dropped _ _ _ =>
    exact bound_update (fun _ hworking => absurd hworking (by simp)) (hkept (.refl _))
  | refailed hterminal hfree hnone =>
    apply bound_update
    · intro robotId hworking
      exact absurd hterminal (not_terminal_of_working hworking)
    · intro other s id hne hsnapshot hworking hrobot
      cases hreleased : snapshot.robotId with
      | none =>
        dsimp only
        rw [hnone hreleased]
        exact h other s id hsnapshot hworking hrobot
      | some robotId =>
        apply h.frees (hfree robotId hreleased) hsnapshot hworking hrobot
        intro robot hrobot hactive htask
        apply hguard
        refine ⟨taskId, _, _, snapshot, robotId, robot, rfl, hget, hterminal, hreleased, hrobot,
          hactive, ?_⟩
        rw [htask]
        exact fun heq => hne (Option.some.inj heq)

lemma Bound.move {label : FleetLabel} (h : Bound view) (hs : Sound view)
    (hmove : FleetMove env view label view') (hallowed : label.Allowed)
    (hguard : ¬ Strays view label) : Bound view' := by
  cases hmove with
  | registry hget heffect _ =>
    exact h.robots (KeepsTasks.set hget (heffect.neutral hallowed).1)
  | create _ hfresh =>
    apply bound_update
    · intro robotId hworking
      simp [hfresh.wmsStatus_eq] at hworking
    · intro other snapshot robotId _ hget hworking hrobot
      exact h other snapshot robotId hget hworking hrobot
  | bind hbinds => exact h.takes hs.consistent hbinds.robot
  | orphan horphans =>
    obtain ⟨_, htakes⟩ := horphans.robot
    exact h.takes hs.consistent htakes
  | haul hget hmove => exact h.haul hs hget hmove hguard

end Moves

structure Isolated (taskId : ℤ) (before after : FleetState) : Prop where
  robots_kept : ∀ robotId robot other, before.registry.robots.get? robotId = some robot →
    robot.currentTaskId = some other → other ≠ taskId →
    after.registry.robots.get? robotId = some robot
  assignments_kept : ∀ other, other ≠ taskId →
    after.dispatcher.assignments.get? other = before.dispatcher.assignments.get? other

def Isolates (env : Environment) (fleet : FleetState) (op : FleetOp) : Prop :=
  ∀ taskId haulOp, op = .haul taskId haulOp → Isolated taskId fleet (step env fleet op)

def Safe (fleet : FleetState) (op : FleetOp) : Prop :=
  ∀ taskId reason snapshot robotId robot, op = .haul taskId (.fail reason) →
    fleet.snapshot? taskId = some snapshot → snapshot.wmsStatus ∈ terminalWmsStatuses →
    snapshot.robotId = some robotId → fleet.registry.robots.get? robotId = some robot →
    robot.state ∈ activeTaskStates → robot.currentTaskId = some taskId

section Runs

variable {env : Environment} {start fleet : FleetState}

lemma bound_step (hgood : Good env fleet) (h : Bound fleet.view) {op : FleetOp}
    (hn : op.Neutral) (hsafe : Safe fleet op) : Bound (step env fleet op).view := by
  apply step_invariant Bound (fun view label => ¬ Strays view label)
    (fun _ _ _ hs hv hm hl hg => hv.move hs hm hl hg) hgood h hn
  · rintro taskId haulOp raised rfl
      ⟨_, reason, _, snapshot, robotId, robot, heq, hget, hterminal, hrobot, hknown, hactive, hne⟩
    cases heq
    exact hne (hsafe taskId reason snapshot robotId robot rfl hget hterminal hrobot hknown hactive)
  · rintro hother view label hlabel ⟨_, _, _, _, _, _, heq, _⟩
    exact hlabel.ne_fail hother heq

lemma robots_kept_of_bound {robots robots' : Dict String RobotRecord} {taskId : ℤ}
    {robotId : String} {own : RobotRecord} (hown : robots.get? robotId = some own)
    (htask : own.currentTaskId = some taskId)
    (hothers : ∀ {id}, id ≠ robotId → robots'.get? id = robots.get? id) {id : String}
    {robot : RobotRecord} {other : ℤ} (hget : robots.get? id = some robot)
    (hother : robot.currentTaskId = some other) (hne : other ≠ taskId) :
    robots'.get? id = some robot := by
  have hid : id ≠ robotId := by
    rintro rfl
    obtain rfl := Option.some.inj (hown.symm.trans hget)
    exact hne (Option.some.inj (hother.symm.trans htask))
  rw [hothers hid, hget]

lemma isolates_of_safe (hgood : Good env fleet) (h : Bound fleet.view) {op : FleetOp}
    (hsafe : Safe fleet op) : Isolates env fleet op := by
  rintro taskId haulOp rfl
  cases hget : fleet.snapshot? taskId with
  | none =>
    rw [step_haul_none hget]
    exact ⟨fun _ _ _ hrobot _ _ => hrobot, fun _ _ => rfl⟩
  | some snapshot =>
    obtain ⟨snapshot', hmove, _⟩ := step_haul hgood hget haulOp
    have hid : snapshot.taskId = taskId := hgood.sound.owned hget
    refine ⟨?_, fun other hne => hmove.assignments_of_ne (hid ▸ hne)⟩
    intro robotId robot other hrobot htask hne
    change (step env fleet (.haul taskId haulOp)).dispatcher.board.robots.get? robotId = some robot
    generalize (step env fleet (.haul taskId haulOp)).dispatcher.board = board' at hmove ⊢
    generalize raises ((FleetOp.haul taskId haulOp).call env) fleet = raised at hmove
    cases hmove with
    | assigned _ _ _ hbinds => exact hbinds.robot.kept hgood.sound.consistent hrobot htask
    | orphaned _ _ _ horphans =>
      obtain ⟨_, htakes⟩ := horphans.robot
      exact htakes.kept hgood.sound.consistent hrobot htask
    | started _ hwms _ hreleased _ htouch =>
      obtain ⟨own, hown, hbound⟩ := h taskId snapshot _ hget (by simp [hwms]) hreleased
      exact robots_kept_of_bound hown hbound htouch.get?_of_ne hrobot htask hne
    | arrived _ hwms _ _ hreleased htouch =>
      obtain ⟨own, hown, hbound⟩ := h taskId snapshot _ hget (by simp [hwms]) hreleased
      exact robots_kept_of_bound hown hbound htouch.get?_of_ne hrobot htask hne
    | closed _ hworking _ hreleased _ hfree =>
      obtain ⟨own, hown, hbound⟩ := h taskId snapshot _ hget hworking hreleased
      exact robots_kept_of_bound hown hbound hfree.get?_of_ne hrobot htask hne
    | refailed hterminal hfree hnone =>
      cases hreleased : snapshot.robotId with
      | none =>
        dsimp only
        rw [hnone hreleased]
        exact hrobot
      | some id =>
        have hfrees := hfree id hreleased
        obtain ⟨own, hown, ⟨_, hsame⟩ | ⟨hactive, _⟩⟩ := hfree id hreleased
        · dsimp only
          rw [hsame]
          exact hrobot
        · have hbound := hsafe taskId _ snapshot id own rfl hget hterminal hreleased hown hactive
          exact robots_kept_of_bound hown hbound hfrees.get?_of_ne hrobot htask hne
    | _ => exact hrobot

lemma safe_of_isolates (hgood : Good env fleet) {op : FleetOp} (hisolates : Isolates env fleet op) :
    Safe fleet op := by
  rintro taskId reason snapshot robotId robot rfl hget hterminal hrobot hknown hactive
  by_contra htask
  obtain ⟨other, hother⟩ := Option.ne_none_iff_exists'.mp
    (hgood.sound.consistent.active_bound hknown hactive)
  have hne : other ≠ taskId := by
    rintro rfl
    exact htask hother
  have hkept := (hisolates taskId (.fail reason) rfl).robots_kept robotId robot other hknown hother
    hne
  change (step env fleet (.haul taskId (.fail reason))).dispatcher.board.robots.get? robotId =
    some robot at hkept
  obtain ⟨snapshot', hmove, _⟩ := step_haul hgood hget (.fail reason)
  generalize (step env fleet (.haul taskId (.fail reason))).dispatcher.board = board' at hmove hkept
  generalize raises ((FleetOp.haul taskId (.fail reason)).call env) fleet = raised at hmove
  have hclosed : snapshot.wmsStatus ∉ [.pending, .requeued] :=
    fun hopen => not_terminal_of_open hopen hterminal
  cases hmove with
  | refused _ haccepts => exact haccepts hclosed
  | rephased _ _ _ hopen _ _ => exact hclosed hopen
  | arrived _ _ _ hleg _ _ => cases hleg
  | closed _ hworking _ _ _ _ => exact not_terminal_of_working hworking hterminal
  | refailed _ hfree _ => exact (hfree robotId hrobot).not_working hkept hactive

/-- Along a run from a started fleet every haul operation leaves the other hauls alone exactly if
every call is safe. -/
theorem isolates_iff_safe (hstart : Started env start) {ops : List FleetOp}
    (hops : ∀ op ∈ ops, op.Neutral) :
    Guarded (step env) (Isolates env) start ops ↔ Guarded (step env) Safe start ops := by
  apply guarded_iff_guarded (fun fleet => Good env fleet ∧ Bound fleet.view)
  · rintro fleet op ⟨hgood, h⟩ hn hsafe
    exact ⟨(step_goes hgood hn).good, bound_step hgood h hn hsafe⟩
  · rintro fleet op ⟨hgood, h⟩ _
    exact ⟨safe_of_isolates hgood, isolates_of_safe hgood h⟩
  · refine ⟨hstart.good, ?_⟩
    intro taskId snapshot robotId hget
    have hnone : start.view.snapshot? taskId = none := hstart.snapshot_eq taskId
    simp [hnone] at hget
  · exact hops

theorem isolates_iff_safe_assigned :
    Guarded (step still) (Isolates still) (opened still ⟨0, none⟩) [newHaul 1, assignHaul 1] ↔
      Guarded (step still) Safe (opened still ⟨0, none⟩) [newHaul 1, assignHaul 1] :=
  isolates_iff_safe seeded_still.toStarted (by simp [newHaul, assignHaul, FleetOp.Neutral])

def reusedRobot : List FleetOp :=
  [newHaul 1, newHaul 2, assignHaul 1, .haul 1 (.fail "lost"), assignHaul 2]

theorem late_fail_strays :
    ¬ Isolates still (stillFleet reusedRobot) (.haul 1 (.fail "lost again")) := by
  intro hisolates
  have hbefore : ((stillFleet reusedRobot).registry.robots.get? "robot_01").map
      (fun robot => (robot.state, robot.currentTaskId)) = some (.assigned, some 2) := by
    decide +kernel
  have hafter : ((step still (stillFleet reusedRobot)
      (.haul 1 (.fail "lost again"))).registry.robots.get? "robot_01").map
      (fun robot => (robot.state, robot.currentTaskId)) = some (.idle, none) := by
    decide +kernel
  obtain ⟨robot, hget, hrobot⟩ := Option.map_eq_some_iff.mp hbefore
  rw [(hisolates 1 _ rfl).robots_kept "robot_01" robot 2 hget (congrArg Prod.snd hrobot)
    (by decide), Option.map_some, hrobot] at hafter
  revert hafter
  decide

end Runs

end Fleet
