import AmrWarehouse.Fleet.HaulMoves
import AmrWarehouse.Fleet.RegistryCalls

/-! The fleet as one machine: a board and the snapshots of the hauls, moved by one label at a time,
and the invariant that all its moves keep. -/

namespace Fleet

open Library

structure FleetView where
  board : Board
  snapshot? : ℤ → Option HaulTaskSnapshot

inductive FleetLabel
  | registry (op : RegistryOp)
  | create (taskId : ℤ)
  | haul (taskId : ℤ) (op : HaulOp) (raised : Bool)
  | bind (taskId : ℤ)
  | orphan (taskId : ℤ)

structure Fresh (taskId : ℤ) (snapshot : HaulTaskSnapshot) : Prop where
  taskId_eq : snapshot.taskId = taskId
  wmsStatus_eq : snapshot.wmsStatus = .pending
  assignmentStatus_eq : snapshot.assignmentStatus = none
  executionPhase_eq : snapshot.executionPhase = .idle
  robotId_eq : snapshot.robotId = none
  pickupCompleted_eq : snapshot.pickupCompleted = false

inductive FleetMove (env : Environment) (view : FleetView) : FleetLabel → FleetView → Prop
  | registry {op : RegistryOp} {robot moved : RobotRecord} :
      view.board.robots.get? op.robotId = some robot → op.Effect robot moved →
      moved.robotId = robot.robotId →
      FleetMove env view (.registry op)
        ⟨⟨view.board.robots.set op.robotId moved, view.board.assignments⟩, view.snapshot?⟩
  | create {taskId : ℤ} {snapshot : HaulTaskSnapshot} :
      view.snapshot? taskId = none → Fresh taskId snapshot →
      FleetMove env view (.create taskId)
        ⟨view.board, Function.update view.snapshot? taskId (some snapshot)⟩
  | haul {taskId : ℤ} {op : HaulOp} {raised : Bool} {snapshot snapshot' : HaulTaskSnapshot}
      {board' : Board} :
      view.snapshot? taskId = some snapshot →
      HaulMove env snapshot view.board op raised snapshot' board' →
      FleetMove env view (.haul taskId op raised)
        ⟨board', Function.update view.snapshot? taskId (some snapshot')⟩
  | bind {taskId : ℤ} {assignment : AssignmentRecord} {board' : Board} :
      Binds view.board board' taskId assignment →
      FleetMove env view (.bind taskId) ⟨board', view.snapshot?⟩
  | orphan {taskId : ℤ} {board' : Board} :
      Orphans view.board board' taskId →
      FleetMove env view (.orphan taskId) ⟨board', view.snapshot?⟩

lemma FleetMove.haul_cases {env : Environment} {view view' : FleetView} {taskId : ℤ} {op : HaulOp}
    {raised : Bool} (h : FleetMove env view (.haul taskId op raised) view') :
    ∃ snapshot snapshot', view.snapshot? taskId = some snapshot ∧
      HaulMove env snapshot view.board op raised snapshot' view'.board ∧
      view'.snapshot? = Function.update view.snapshot? taskId (some snapshot') := by
  cases h with
  | haul hget hmove => exact ⟨_, _, hget, hmove, rfl⟩

def RegistryOp.Neutral : RegistryOp → Prop
  | assignTask _ _ => False
  | markBusy _ => False
  | releaseTask _ => False
  | _ => True

lemma RegistryOp.Effect.neutral {op : RegistryOp} {robot moved : RobotRecord}
    (h : op.Effect robot moved) (hn : op.Neutral) :
    moved.currentTaskId = robot.currentTaskId ∧
      (moved.state = robot.state ∨ moved.state ∉ activeTaskStates ∧
        (moved.state = .idle → robot.currentTaskId = none)) := by
  cases op with
  | assignTask _ _ => exact hn.elim
  | markBusy _ => exact hn.elim
  | releaseTask _ => exact hn.elim
  | markOffline _ => exact ⟨h.2, .inr (by simp [h.1, activeTaskStates])⟩
  | markError _ => exact ⟨h.2, .inr (by simp [h.1, activeTaskStates])⟩
  | recordHeartbeat _ _ _ _ _ =>
    obtain ⟨htask, hstate | ⟨_, hfree, hidle⟩⟩ := h
    · exact ⟨htask, .inl hstate⟩
    · exact ⟨htask, .inr ⟨by simp [hidle, activeTaskStates], fun _ => hfree⟩⟩
  | setCurrentStation _ _ => exact ⟨h.2, .inl h.1⟩
  | recoverToIdle _ =>
    obtain ⟨hfree, htask, hidle⟩ := h
    exact ⟨htask.trans hfree.symm, .inr ⟨by simp [hidle, activeTaskStates], fun _ => hfree⟩⟩

lemma RegistryOp.Effect.consistent {op : RegistryOp} {robot moved : RobotRecord}
    {robots : Dict String RobotRecord} (hc : Consistent robots)
    (hget : robots.get? op.robotId = some robot) (h : op.Effect robot moved)
    (hname : moved.robotId = robot.robotId) : Consistent (robots.set op.robotId moved) := by
  have hidle := hc.idle_free hget
  have hactive := hc.active_bound hget
  apply hc.set (hname.trans (hc.named hget))
  · intro hmoved
    cases op with
    | recordHeartbeat _ _ _ _ _ =>
      obtain ⟨htask, hstate | ⟨_, hfree, _⟩⟩ := h
      · exact htask.trans (hidle (hstate ▸ hmoved))
      · exact htask.trans hfree
    | _ => simp_all [RegistryOp.Effect]
  · intro hmoved
    cases op with
    | recordHeartbeat _ _ _ _ _ =>
      obtain ⟨htask, hstate | ⟨_, _, hstate⟩⟩ := h
      · rw [htask]
        exact hactive (hstate ▸ hmoved)
      · simp [hstate, activeTaskStates] at hmoved
    | _ => simp_all [RegistryOp.Effect, activeTaskStates]

lemma RegistryOp.Effect.calm {op : RegistryOp} {robot moved : RobotRecord}
    {robots : Dict String RobotRecord} (hget : robots.get? op.robotId = some robot)
    (h : op.Effect robot moved) (hn : op.Neutral) : Calm robots (robots.set op.robotId moved) := by
  obtain ⟨htask, hstate⟩ := h.neutral hn
  apply Calm.set hget
  intro hactive
  refine ⟨?_, htask.symm⟩
  rcases hstate with heq | ⟨hnot, _⟩
  · rwa [← heq]
  · exact absurd hactive hnot

def FleetLabel.Allowed : FleetLabel → Prop
  | registry op => op.Neutral
  | _ => True

structure Sound (view : FleetView) : Prop where
  consistent : Consistent view.board.robots
  owned : ∀ {taskId snapshot}, view.snapshot? taskId = some snapshot → snapshot.taskId = taskId
  tied : ∀ {taskId snapshot}, view.snapshot? taskId = some snapshot → Tied snapshot view.board

namespace Sound

variable {env : Environment} {view : FleetView}

lemma tied_of_ne {snapshot : HaulTaskSnapshot} {board board' : Board} (ht : Tied snapshot board)
    (hrec : board'.assignments.get? snapshot.taskId = board.assignments.get? snapshot.taskId)
    (hknown : ∀ {robotId}, (board.robots.get? robotId).isSome →
      (board'.robots.get? robotId).isSome) : Tied snapshot board' := by
  refine ⟨ht.coherent, ?_, fun hrobot => hknown (ht.known hrobot)⟩
  intro status hstatus hactive
  rw [hrec]
  exact ht.record hstatus hactive

lemma tied_of_binds {snapshot : HaulTaskSnapshot} {board board' : Board} {taskId : ℤ}
    {assignment : AssignmentRecord} (ht : Tied snapshot board)
    (hbinds : Binds board board' taskId assignment) : Tied snapshot board' := by
  refine ⟨ht.coherent, ?_, fun hrobot => hbinds.known (ht.known hrobot)⟩
  intro status hstatus hactive
  obtain ⟨held, hheld, hown, hrobot⟩ := ht.record hstatus hactive
  have hne : snapshot.taskId ≠ taskId := by
    rintro rfl
    have hfree := hbinds.free held hheld
    simp [AssignmentRecord.isActive, hown, hactive] at hfree
  exact ⟨held, by rw [hbinds.get?_of_ne hne, hheld], hown, hrobot⟩

theorem move (h : Sound view) {label : FleetLabel} {view' : FleetView}
    (hmove : FleetMove env view label view') (hallowed : label.Allowed) : Sound view' := by
  cases hmove with
  | registry hget heffect hname =>
    refine ⟨heffect.consistent h.consistent hget hname, h.owned, ?_⟩
    exact fun hs => tied_of_ne (h.tied hs) rfl (heffect.calm hget hallowed).known
  | create hnone hfresh =>
    rename_i taskId snapshot
    refine ⟨h.consistent, ?_, ?_⟩
    · intro other s hs
      dsimp only at hs
      rw [Function.update_apply] at hs
      split_ifs at hs with heq
      · rw [← Option.some.inj hs, hfresh.taskId_eq, heq]
      · exact h.owned hs
    · intro other s hs
      dsimp only at hs
      rw [Function.update_apply] at hs
      split_ifs at hs with heq
      · obtain rfl := Option.some.inj hs
        refine ⟨?_, ?_, ?_⟩
        · simp [HaulTaskSnapshot.Coherent, hfresh.wmsStatus_eq, hfresh.assignmentStatus_eq,
            hfresh.executionPhase_eq, hfresh.robotId_eq, hfresh.pickupCompleted_eq]
        · simp [hfresh.assignmentStatus_eq]
        · simp [hfresh.robotId_eq]
      · exact h.tied hs
  | haul hget hmove =>
    rename_i taskId op raised snapshot snapshot' board'
    have hown := h.owned hget
    refine ⟨hmove.consistent h.consistent, ?_, ?_⟩
    · intro other s hs
      dsimp only at hs
      rw [Function.update_apply] at hs
      split_ifs at hs with heq
      · rw [← Option.some.inj hs, hmove.taskId_eq, hown, heq]
      · exact h.owned hs
    · intro other s hs
      dsimp only at hs
      rw [Function.update_apply] at hs
      split_ifs at hs with heq
      · rw [← Option.some.inj hs]
        exact hmove.tied (h.tied hget)
      · have hne : s.taskId ≠ snapshot.taskId := by
          rw [h.owned hs, hown]
          exact heq
        exact tied_of_ne (h.tied hs) (hmove.assignments_of_ne hne) hmove.known
  | bind hbinds =>
    exact ⟨hbinds.consistent h.consistent, h.owned, fun hs => tied_of_binds (h.tied hs) hbinds⟩
  | orphan horphans =>
    refine ⟨horphans.consistent h.consistent, h.owned, fun hs => tied_of_ne (h.tied hs) ?_ ?_⟩
    · rw [horphans.assignments_eq]
    · exact horphans.known

end Sound

end Fleet
