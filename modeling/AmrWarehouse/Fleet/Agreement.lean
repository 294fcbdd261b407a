import AmrWarehouse.Fleet.Orphans

/-! Active assignments and the robots they name. -/

namespace Fleet

open Library

def Agreed (board : Board) : Prop :=
  ∀ taskId assignment, board.assignments.get? taskId = some assignment → assignment.isActive →
    ∃ robot, board.robots.get? assignment.robotId = some robot ∧
      robot.currentTaskId = some taskId

def Held (board : Board) : Prop :=
  ∀ robotId robot taskId, board.robots.get? robotId = some robot →
    robot.state ∈ activeTaskStates → robot.currentTaskId = some taskId →
    ∃ assignment, board.assignments.get? taskId = some assignment ∧ assignment.isActive ∧
      assignment.robotId = robotId

section Boards

variable {board : Board}

lemma Held.calm (h : Held board) {robots : Dict String RobotRecord}
    (hcalm : Calm board.robots robots) : Held ⟨robots, board.assignments⟩ := by
  intro robotId robot taskId hget hactive htask
  obtain ⟨old, hold, hworking, hsame⟩ := hcalm.working hget hactive
  exact h robotId old taskId hold hworking (hsame.trans htask)

lemma Held.syncs_active (h : Held board) {assignments : Dict ℤ AssignmentRecord} {taskId : ℤ}
    {status : AssignmentStatus} (hactive : status ∈ activeAssignmentStatuses)
    (hsync : Syncs board.assignments assignments taskId status) :
    Held ⟨board.robots, assignments⟩ := by
  intro robotId robot other hget hworking htask
  obtain ⟨assignment, hrec, hown, hrobot⟩ := h robotId robot other hget hworking htask
  by_cases hne : other = taskId
  · subst hne
    obtain ⟨updated, hupdated, hstatus, hsame⟩ := hsync.get? hrec
    refine ⟨updated, hupdated, ?_, hsame.trans hrobot⟩
    simpa [AssignmentRecord.isActive, hstatus] using hactive
  · exact ⟨assignment, by rw [hsync.get?_of_ne hne, hrec], hown, hrobot⟩

lemma Held.closes (h : Held board) {assignments : Dict ℤ AssignmentRecord} {taskId : ℤ}
    {status : AssignmentStatus} {robots : Dict String RobotRecord} {assignment : AssignmentRecord}
    (hrec : board.assignments.get? taskId = some assignment)
    (hsync : Syncs board.assignments assignments taskId status)
    (hfree : Frees board.robots robots assignment.robotId) : Held ⟨robots, assignments⟩ := by
  intro robotId robot other hget hworking htask
  obtain ⟨held, hheld, hactive, hrobot⟩ := h.calm hfree.calm robotId robot other hget hworking htask
  by_cases hne : other = taskId
  · subst hne
    obtain rfl := Option.some.inj (hrec.symm.trans hheld)
    subst hrobot
    exact absurd hworking (hfree.not_working hget)
  · exact ⟨held, by rw [hsync.get?_of_ne hne, hheld], hactive, hrobot⟩

lemma Held.binds (h : Held board) {after : Board} {taskId : ℤ}
    {assignment : AssignmentRecord} (hbinds : Binds board after taskId assignment) :
    Held after := by
  obtain ⟨robot, moved, hget, hidle, _, hstate, htask, hafter⟩ := hbinds.robot
  intro robotId other otherId hother hworking hown
  rw [hafter, Dict.get?_set] at hother
  split at hother
  · subst robotId
    obtain rfl := Option.some.inj hother
    obtain rfl := Option.some.inj (htask.symm.trans hown)
    exact ⟨assignment, hbinds.get?_self, hbinds.isActive, rfl⟩
  · obtain ⟨held, hheld, hactive, hrobot⟩ := h robotId other otherId hother hworking hown
    have hne : otherId ≠ taskId := by
      rintro rfl
      rw [hbinds.free held hheld] at hactive
      exact absurd hactive (by simp)
    exact ⟨held, by rw [hbinds.get?_of_ne hne, hheld], hactive, hrobot⟩

lemma Agreed.keepsTasks (h : Agreed board) {robots : Dict String RobotRecord}
    (hkeeps : KeepsTasks board.robots robots) : Agreed ⟨robots, board.assignments⟩ := by
  intro taskId assignment hget hactive
  obtain ⟨robot, hrobot, htask⟩ := h taskId assignment hget hactive
  obtain ⟨moved, hmoved, hsame⟩ := hkeeps _ robot hrobot
  exact ⟨moved, hmoved, hsame.trans htask⟩

lemma Agreed.syncs (h : Agreed board) {assignments : Dict ℤ AssignmentRecord} {taskId : ℤ}
    {status : AssignmentStatus} {assignment : AssignmentRecord}
    (hrec : board.assignments.get? taskId = some assignment) (hactive : assignment.isActive)
    (hsync : Syncs board.assignments assignments taskId status) :
    Agreed ⟨board.robots, assignments⟩ := by
  intro other held hget hheld
  by_cases hne : other = taskId
  · subst hne
    obtain ⟨updated, hupdated, _, hrobot⟩ := hsync.get? hrec
    obtain rfl := Option.some.inj (hupdated.symm.trans hget)
    rw [hrobot]
    exact h other assignment hrec hactive
  · dsimp only at hget
    rw [hsync.get?_of_ne hne] at hget
    exact h other held hget hheld

lemma Agreed.closes (h : Agreed board) {assignments : Dict ℤ AssignmentRecord} {taskId : ℤ}
    {status : AssignmentStatus} {robots : Dict String RobotRecord} {assignment : AssignmentRecord}
    (hrec : board.assignments.get? taskId = some assignment) (hactive : assignment.isActive)
    (hended : status ∉ activeAssignmentStatuses)
    (hsync : Syncs board.assignments assignments taskId status)
    (hfree : Frees board.robots robots assignment.robotId) : Agreed ⟨robots, assignments⟩ := by
  intro other held hget hheld
  have hne : other ≠ taskId := by
    rintro rfl
    obtain ⟨updated, hupdated, hstatus, _⟩ := hsync.get? hrec
    obtain rfl := Option.some.inj (hupdated.symm.trans hget)
    simp [AssignmentRecord.isActive, hstatus, hended] at hheld
  dsimp only at hget
  rw [hsync.get?_of_ne hne] at hget
  obtain ⟨robot, hrobot, htask⟩ := h other held hget hheld
  obtain ⟨own, hown, htask'⟩ := h taskId assignment hrec hactive
  have hid : held.robotId ≠ assignment.robotId := by
    intro heq
    rw [heq, hown] at hrobot
    obtain rfl := Option.some.inj hrobot
    exact hne (Option.some.inj (htask.symm.trans htask'))
  exact ⟨robot, by rw [hfree.get?_of_ne hid, hrobot], htask⟩

lemma Agreed.binds (h : Agreed board) (hc : Consistent board.robots) {after : Board} {taskId : ℤ}
    {assignment : AssignmentRecord} (hbinds : Binds board after taskId assignment) :
    Agreed after := by
  obtain ⟨robot, moved, hrobot, hidle, _, _, htask, hafter⟩ := hbinds.robot
  intro other held hget hheld
  by_cases hne : other = taskId
  · subst hne
    obtain rfl := Option.some.inj (hbinds.get?_self.symm.trans hget)
    exact ⟨moved, by rw [hafter, Dict.get?_set_self], htask⟩
  · rw [hbinds.get?_of_ne hne] at hget
    obtain ⟨own, hown, htask'⟩ := h other held hget hheld
    have hid : held.robotId ≠ assignment.robotId := by
      intro heq
      rw [heq, hrobot] at hown
      obtain rfl := Option.some.inj hown
      rw [hc.idle_free hrobot hidle] at htask'
      simp at htask'
    exact ⟨own, by rw [hafter, Dict.get?_set_of_ne _ _ hid, hown], htask'⟩

lemma Orphans.not_held {after : Board} {taskId : ℤ} (h : Orphans board after taskId) :
    ∃ robotId robot, after.robots.get? robotId = some robot ∧ robot.state ∈ activeTaskStates ∧
      robot.currentTaskId = some taskId ∧ ∀ assignment,
        after.assignments.get? taskId = some assignment → assignment.isActive = false := by
  obtain ⟨robotId, _, moved, _, _, _, hstate, htask, hafter⟩ := h.robot
  refine ⟨robotId, moved, ?_, ?_, htask, ?_⟩
  · rw [hafter, Dict.get?_set_self]
  · simp [hstate, activeTaskStates]
  · rw [h.assignments_eq]
    exact h.free

end Boards

def Refails (view : FleetView) (label : FleetLabel) : Prop :=
  ∃ taskId reason raised snapshot, label = .haul taskId (.fail reason) raised ∧
    view.snapshot? taskId = some snapshot ∧ snapshot.wmsStatus ∈ terminalWmsStatuses

def Orphaning (env : Environment) (view : FleetView) (label : FleetLabel) : Prop :=
  (∃ taskId, label = .orphan taskId) ∨ ∃ taskId op raised snapshot, label = .haul taskId op raised ∧
    view.snapshot? taskId = some snapshot ∧ op.Orphans env snapshot view.board

lemma Closing.ended {snapshot : HaulTaskSnapshot} {op : HaulOp} {wmsStatus : WmsTaskStatus}
    {phase : HaulExecutionPhase} {status : AssignmentStatus}
    (h : Closing snapshot op wmsStatus phase status) : status ∉ activeAssignmentStatuses := by
  cases h <;> decide

lemma Held.haul {env : Environment} {view : FleetView} (h : Held view.board) (hs : Sound view)
    {taskId : ℤ} {op : HaulOp} {raised : Bool} {snapshot snapshot' : HaulTaskSnapshot}
    {board' : Board}
    (hget : view.snapshot? taskId = some snapshot)
    (hmove : HaulMove env snapshot view.board op raised snapshot' board')
    (hguard : ¬ Orphaning env view (.haul taskId op raised)) : Held board' := by
  have ht := hs.tied hget
  cases hmove with
  | orphaned _ hgives hconverts _ =>
    exact absurd (.inr ⟨_, _, _, _, rfl, hget, hgives, hconverts⟩) hguard
  | halfStarted _ _ _ hsync => exact h.syncs_active (by decide) hsync
  | assigned _ _ _ hbinds => exact h.binds hbinds
  | started _ _ _ _ hsync htouch =>
    exact (h.syncs_active (by decide) hsync).calm htouch.calm
  | arrived _ _ _ _ _ htouch => exact h.calm htouch.calm
  | closed _ hworking _ hrobot hsync hfree =>
    obtain ⟨_, assignment, hrec, _, hown, _⟩ := ht.working hworking
    obtain rfl := Option.some.inj (hown.symm.trans hrobot)
    exact h.closes hrec hsync hfree
  | refailed _ hfree hnone =>
    cases hrobot : snapshot.robotId with
    | none =>
      rw [hnone hrobot]
      exact h
    | some id => exact h.calm (hfree id hrobot).calm
  | _ => exact h

lemma Held.move {env : Environment} {view view' : FleetView} {label : FleetLabel}
    (h : Held view.board) (hs : Sound view) (hmove : FleetMove env view label view')
    (hallowed : label.Allowed) (hguard : ¬ Orphaning env view label) : Held view'.board := by
  cases hmove with
  | orphan _ => exact absurd (.inl ⟨_, rfl⟩) hguard
  | registry hget heffect _ => exact h.calm (heffect.calm hget hallowed)
  | create _ _ => exact h
  | bind hbinds => exact h.binds hbinds
  | haul hget hmove => exact h.haul hs hget hmove hguard

lemma Agreed.move {env : Environment} {view view' : FleetView} {label : FleetLabel}
    (h : Agreed view.board) (hs : Sound view) (hmove : FleetMove env view label view')
    (hallowed : label.Allowed) (hguard : ¬ Refails view label)
    (horphaning : ¬ Orphaning env view label) : Agreed view'.board := by
  cases hmove with
  | orphan _ => exact absurd (.inl ⟨_, rfl⟩) horphaning
  | registry hget heffect _ =>
    exact h.keepsTasks (KeepsTasks.set hget (heffect.neutral hallowed).1)
  | create _ _ => exact h
  | bind hbinds => exact h.binds hs.consistent hbinds
  | haul hget hmove =>
    have ht := hs.tied hget
    cases hmove with
    | orphaned _ hgives hconverts _ =>
      exact absurd (.inr ⟨_, _, _, _, rfl, hget, hgives, hconverts⟩) horphaning
    | halfStarted _ hwms _ hsync =>
      obtain ⟨_, assignment, hrec, hactive, _, _⟩ := ht.working (by simp [hwms])
      exact h.syncs hrec hactive hsync
    | assigned _ _ _ hbinds => exact h.binds hs.consistent hbinds
    | started _ hwms _ _ hsync htouch =>
      obtain ⟨_, assignment, hrec, hactive, _, _⟩ := ht.working (by simp [hwms])
      exact (h.syncs hrec hactive hsync).keepsTasks htouch.keepsTasks
    | arrived _ _ _ _ _ htouch => exact h.keepsTasks htouch.keepsTasks
    | closed _ hworking hclosing hrobot hsync hfree =>
      obtain ⟨_, assignment, hrec, hactive, hown, _⟩ := ht.working hworking
      obtain rfl := Option.some.inj (hown.symm.trans hrobot)
      exact h.closes hrec hactive hclosing.ended hsync hfree
    | refailed hterminal _ _ =>
      exact absurd ⟨_, _, _, _, rfl, hget, hterminal⟩ hguard
    | _ => exact h

/-- Neutral calls, except `fail` on a haul that is over. -/
def Careful (fleet : FleetState) (op : FleetOp) : Prop :=
  op.Neutral ∧ ∀ taskId reason snapshot, op = .haul taskId (.fail reason) →
    fleet.snapshot? taskId = some snapshot → snapshot.wmsStatus ∉ terminalWmsStatuses

structure Agreement (fleet : FleetState) : Prop where
  assignment_named : ∀ taskId assignment,
    fleet.dispatcher.assignments.get? taskId = some assignment → assignment.isActive →
    ∃ robot, fleet.registry.robots.get? assignment.robotId = some robot ∧
      robot.currentTaskId = some taskId
  robot_assigned : ∀ robotId robot, fleet.registry.robots.get? robotId = some robot →
    robot.state ∈ activeTaskStates → ∃ taskId assignment, robot.currentTaskId = some taskId ∧
      fleet.dispatcher.assignments.get? taskId = some assignment ∧ assignment.isActive ∧
        assignment.robotId = robotId
  robots_distinct : ∀ taskId other assignment held,
    fleet.dispatcher.assignments.get? taskId = some assignment → assignment.isActive →
    fleet.dispatcher.assignments.get? other = some held → held.isActive →
    assignment.robotId = held.robotId → taskId = other

section Runs

variable {env : Environment} {start : FleetState}

lemma Agreement.of_agreed {fleet : FleetState} (hs : Sound fleet.view)
    (hheld : Held fleet.dispatcher.board) (h : Agreed fleet.dispatcher.board) :
    Agreement fleet := by
  refine ⟨h, ?_, ?_⟩
  · intro robotId robot hget hactive
    obtain ⟨taskId, htask⟩ := Option.ne_none_iff_exists'.mp
      (hs.consistent.active_bound hget hactive)
    exact ⟨taskId, (hheld robotId robot taskId hget hactive htask).imp
      fun _ hassignment => ⟨htask, hassignment⟩⟩
  · intro taskId other assignment held hget hactive hget' hactive' heq
    obtain ⟨robot, hrobot, htask⟩ := h taskId assignment hget hactive
    obtain ⟨robot', hrobot', htask'⟩ := h other held hget' hactive'
    rw [heq, hrobot'] at hrobot
    obtain rfl := Option.some.inj hrobot
    exact Option.some.inj (htask.symm.trans htask')

lemma agreed_of_labels {fleet : FleetState} (hgood : Good env fleet)
    (h : Held fleet.dispatcher.board ∧ Agreed fleet.dispatcher.board) {op : FleetOp}
    (hop : Careful fleet op)
    (hhaul : ∀ taskId haulOp, op = .haul taskId haulOp → ¬ OrphansHaul env fleet taskId haulOp)
    (hother : (∀ taskId haulOp, op ≠ .haul taskId haulOp) → ∀ view label,
      op.Allows env view label → ¬ Orphaning env view label) :
    Held (step env fleet op).dispatcher.board ∧ Agreed (step env fleet op).dispatcher.board := by
  apply step_invariant (fun view => Held view.board ∧ Agreed view.board)
    (fun view label => ¬ Refails view label ∧ ¬ Orphaning env view label)
    (fun _ _ _ hs hv hm hl hg => ⟨hv.1.move hs hm hl hg.2, hv.2.move hs hm hl hg.1 hg.2⟩)
    hgood h hop.1
  · rintro taskId haulOp raised rfl
    constructor
    · rintro ⟨_, reason, _, snapshot, heq, hget, hterminal⟩
      cases heq
      exact hop.2 taskId reason snapshot rfl hget hterminal
    · rintro (⟨_, heq⟩ | ⟨_, _, _, snapshot, heq, hget, horphans⟩)
      · cases heq
      · cases heq
        exact hhaul taskId haulOp rfl ⟨snapshot, hget, horphans⟩
  · intro hne view label hlabel
    refine ⟨?_, hother hne view label hlabel⟩
    rintro ⟨_, _, _, _, heq, _⟩
    exact hlabel.ne_fail hne heq

lemma not_orphaning_of_converts {view : FleetView} {now : Datetime} {timeout : Floating}
    {taskId : ℤ} {raised : Bool} (hconverts : env.Converts now) :
    ¬ Orphaning env view (.haul taskId (.assign now timeout) raised) := by
  rintro (⟨_, heq⟩ | ⟨_, _, _, _, heq, _, horphans⟩)
  · cases heq
  · cases heq
    exact horphans.2 hconverts

lemma agreed_assignTask {fleet : FleetState} (hgood : Good env fleet)
    (h : Held fleet.dispatcher.board ∧ Agreed fleet.dispatcher.board) {task : DispatchTask}
    {now : Datetime} {timeout : Floating} {penalties : Dict String ℚ}
    (hnot : ¬ OrphansTask env fleet task now timeout penalties) :
    Held (step env fleet (.assignTask task now timeout penalties)).dispatcher.board ∧
      Agreed (step env fleet (.assignTask task now timeout penalties)).dispatcher.board := by
  by_cases hconverts : env.Converts now
  · refine agreed_of_labels hgood h ?_ (by simp) ?_
    · exact ⟨trivial, by simp⟩
    · rintro - view label (rfl | ⟨hnever, -⟩)
      · simp [Orphaning]
      · exact absurd hconverts hnever
  · rw [step_assignTask_refused fun hcan => hnot ⟨hcan, hconverts⟩]
    exact h

lemma agreed_assign {fleet : FleetState} (hgood : Good env fleet)
    (h : Held fleet.dispatcher.board ∧ Agreed fleet.dispatcher.board) {taskId : ℤ}
    {now : Datetime} {timeout : Floating}
    (hnot : ¬ OrphansHaul env fleet taskId (.assign now timeout)) :
    Held (step env fleet (.haul taskId (.assign now timeout))).dispatcher.board ∧
      Agreed (step env fleet (.haul taskId (.assign now timeout))).dispatcher.board := by
  refine agreed_of_labels hgood h ?_ ?_ ?_
  · exact ⟨trivial, by simp⟩
  · rintro _ _ heq
    cases heq
    exact hnot
  · exact fun hne => absurd rfl (hne _ _)

lemma agreed_step {fleet : FleetState} (hgood : Good env fleet)
    (h : Held fleet.dispatcher.board ∧ Agreed fleet.dispatcher.board) {op : FleetOp}
    (hop : Careful fleet op) (hnot : ¬ OrphansRobot env fleet op) :
    Held (step env fleet op).dispatcher.board ∧ Agreed (step env fleet op).dispatcher.board := by
  cases op with
  | assignTask task now timeout penalties => exact agreed_assignTask hgood h hnot
  | dispatchTasks tasks now timeout penalties =>
    by_cases hconverts : env.Converts now
    · apply agreed_of_labels hgood h hop (by simp)
      rintro - view label ⟨task, -, rfl | ⟨hnever, -⟩⟩
      · simp [Orphaning]
      · exact absurd hconverts hnever
    · rw [step_dispatchTasks hgood hconverts]
      cases hnext : fleet.nextTask tasks with
      | none => exact h
      | some task => exact agreed_assignTask hgood h fun horphans => hnot ⟨task, hnext, horphans⟩
  | reassignRequeued haulTasks now timeout =>
    by_cases hconverts : env.Converts now
    · apply agreed_of_labels hgood h hop (by simp)
      rintro - view label ⟨_, _, _, _, rfl⟩
      exact not_orphaning_of_converts hconverts
    · rw [step_reassignRequeued hgood hconverts]
      cases hnext : fleet.nextRequeued haulTasks with
      | none => exact h
      | some controller =>
        exact agreed_assign hgood h fun horphans => hnot ⟨controller, hnext, horphans⟩
  | haul taskId haulOp =>
    apply agreed_of_labels hgood h hop
    · rintro _ _ heq
      cases heq
      exact hnot
    · exact fun hne => absurd rfl (hne _ _)
  | registry op =>
    apply agreed_of_labels hgood h hop (by simp)
    rintro - view label ⟨rfl, -⟩
    simp [Orphaning]
  | createHaul taskId pickupStation dropoffStation priority eventSink =>
    apply agreed_of_labels hgood h hop (by simp)
    rintro - view label rfl
    simp [Orphaning]
  | setAssignmentStatus taskId status timestamp => exact hop.1.elim
  | sweep now timeout haulTasks =>
    apply agreed_of_labels hgood h hop (by simp)
    rintro - view label (⟨_, _, _, rfl⟩ | ⟨_, rfl⟩)
    · rintro (⟨_, heq⟩ | ⟨_, _, _, _, heq, _, horphans⟩)
      · cases heq
      · cases heq
        exact horphans
    · simp [Orphaning]

lemma step_haul_orphans {fleet : FleetState} (hgood : Good env fleet) {taskId : ℤ} {op : HaulOp}
    (h : OrphansHaul env fleet taskId op) :
    ∃ taskId', Orphans fleet.dispatcher.board (step env fleet (.haul taskId op)).dispatcher.board
      taskId' := by
  obtain ⟨snapshot, hget, horphans⟩ := h
  obtain ⟨snapshot', hmove, -⟩ := step_haul hgood hget op
  generalize (step env fleet (.haul taskId op)).dispatcher.board = board' at hmove ⊢
  generalize raises ((FleetOp.haul taskId op).call env) fleet = raised at hmove
  cases hmove with
  | orphaned _ _ _ hboard => exact ⟨_, hboard⟩
  | refused htears _ =>
    cases op with
    | assign now timeout => exact absurd (.inr horphans) htears
    | _ => exact horphans.elim
  | rephased _ _ hnot _ _ _ => exact absurd horphans hnot
  | assigned _ _ hconverts _ => exact absurd hconverts horphans.2
  | arrived _ _ _ hleg _ _ => cases hleg <;> exact horphans.elim
  | closed _ _ hclosing _ _ _ => cases hclosing <;> exact horphans.elim
  | _ => exact horphans.elim

lemma step_orphans {fleet : FleetState} (hgood : Good env fleet) {op : FleetOp}
    (h : OrphansRobot env fleet op) :
    ∃ taskId, Orphans fleet.dispatcher.board (step env fleet op).dispatcher.board taskId := by
  cases op with
  | haul taskId op => exact step_haul_orphans hgood h
  | assignTask task now timeout penalties => exact ⟨_, step_assignTask_orphans hgood h⟩
  | dispatchTasks tasks now timeout penalties =>
    obtain ⟨task, hnext, horphans⟩ := h
    rw [step_dispatchTasks hgood horphans.2, hnext]
    exact ⟨_, step_assignTask_orphans hgood horphans⟩
  | reassignRequeued haulTasks now timeout =>
    obtain ⟨controller, hnext, horphans⟩ := h
    have hconverts : ¬ env.Converts now := by
      obtain ⟨_, _, _, hconverts⟩ := horphans
      exact hconverts
    rw [step_reassignRequeued hgood hconverts, hnext]
    exact step_haul_orphans hgood horphans
  | _ => exact h.elim

lemma held_agreed_of_agreement {fleet : FleetState} (h : Agreement fleet) :
    Held fleet.dispatcher.board ∧ Agreed fleet.dispatcher.board := by
  refine ⟨?_, h.assignment_named⟩
  intro robotId robot taskId hget hactive htask
  obtain ⟨other, assignment, hother, hrec⟩ := h.robot_assigned robotId robot hget hactive
  obtain rfl := Option.some.inj (htask.symm.trans hother)
  exact ⟨assignment, hrec⟩

lemma agreement_step_iff {fleet : FleetState} (hgood : Good env fleet) (h : Agreement fleet)
    {op : FleetOp} (hop : Careful fleet op) :
    Agreement (step env fleet op) ↔ ¬ OrphansRobot env fleet op := by
  constructor
  · intro hafter horphans
    obtain ⟨taskId, hboard⟩ := step_orphans hgood horphans
    obtain ⟨robotId, robot, hget, hactive, htask, hnone⟩ := hboard.not_held
    obtain ⟨other, assignment, hother, hrec, hassigned, -⟩ :=
      hafter.robot_assigned robotId robot hget hactive
    obtain rfl := Option.some.inj (htask.symm.trans hother)
    rw [hnone assignment hrec] at hassigned
    cases hassigned
  · intro hnot
    obtain ⟨hheld, hagreed⟩ := agreed_step hgood (held_agreed_of_agreement h) hop hnot
    exact .of_agreed (step_goes hgood hop.1).good.sound hheld hagreed

lemma Seeded.agreement (hstart : Seeded env start) : Agreement start := by
  apply Agreement.of_agreed hstart.good.sound
  · intro robotId robot taskId hget _ htask
    rw [(hstart.idle hget).2] at htask
    simp at htask
  · intro taskId assignment hget
    have hnone : start.dispatcher.board.assignments.get? taskId = none := hstart.unassigned taskId
    simp [hnone] at hget

/-- Along a run from a seeded fleet assignments and robots always agree exactly if no call finds a
robot for a task at a moment that has no UTC datetime. -/
theorem agreement_iff_converted (hstart : Seeded env start) {ops : List FleetOp}
    (hops : Guarded (step env) Careful start ops) :
    Always (step env) Agreement start ops ↔
      Guarded (step env) (fun fleet op => ¬ OrphansRobot env fleet op) start ops := by
  refine always_iff_guarded (Good env) ?_ ?_ hstart.good hstart.agreement hops
  · exact fun fleet op hgood hop => (step_goes hgood hop.1).good
  · exact fun fleet op hgood hop h => agreement_step_iff hgood h hop

theorem agreement_iff_converted_to_pickup :
    Always (step still) Agreement (opened still ⟨0, none⟩)
        [newHaul 1, assignHaul 1, .haul 1 .start] ↔
      Guarded (step still) (fun fleet op => ¬ OrphansRobot still fleet op) (opened still ⟨0, none⟩)
        [newHaul 1, assignHaul 1, .haul 1 .start] := by
  apply agreement_iff_converted seeded_still
  refine ⟨⟨trivial, ?_⟩, ⟨trivial, ?_⟩, ⟨trivial, ?_⟩, trivial⟩
  · simp [newHaul]
  · simp [assignHaul]
  · simp

end Runs

theorem unconverted_assign_disagrees :
    ¬ Agreement (stillFleet [newHaul 1, .haul 1 (.assign beforeYearOne 30)]) := by
  intro h
  have hrobot : ((stillFleet [newHaul 1, .haul 1 (.assign beforeYearOne 30)]).registry.robots.get?
      "robot_01").map (fun robot => (robot.state, robot.currentTaskId)) =
        some (.assigned, some 1) := by decide +kernel
  have hnone : (stillFleet [newHaul 1,
      .haul 1 (.assign beforeYearOne 30)]).dispatcher.assignments.get? 1 = none := by
    decide +kernel
  obtain ⟨robot, hget, hvalues⟩ := Option.map_eq_some_iff.mp hrobot
  rw [Prod.mk.injEq] at hvalues
  obtain ⟨taskId, assignment, htask, hrec, -⟩ :=
    h.robot_assigned "robot_01" robot hget (by simp [hvalues.1, activeTaskStates])
  obtain rfl := Option.some.inj (hvalues.2.symm.trans htask)
  rw [hnone] at hrec
  cases hrec

end Fleet
