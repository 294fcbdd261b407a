import AmrWarehouse.Fleet.FleetRuns

/-! The business status, the assignment status and the execution phase of a haul move together as
long as no call on a haul raises. -/

namespace Fleet

open Library

def Lockstep (snapshot : HaulTaskSnapshot) (origin : Option HaulExecutionPhase) : Prop :=
  match snapshot.wmsStatus with
  | .pending => snapshot.executionPhase = .idle ∧ snapshot.assignmentStatus = none ∧
      snapshot.robotId = none ∧ snapshot.pickupCompleted = false
  | .assigned => snapshot.executionPhase = .idle ∧ snapshot.assignmentStatus = some .assigned ∧
      snapshot.robotId.isSome ∧ snapshot.pickupCompleted = false
  | .inProgress => snapshot.assignmentStatus = some .executing ∧
      (snapshot.executionPhase ∈ [.navigatingToPickup, .pickup] ∧
          snapshot.pickupCompleted = false ∨
        snapshot.executionPhase ∈ [.navigatingToDropoff, .dropoff] ∧
          snapshot.pickupCompleted = true)
  | .succeeded => snapshot.executionPhase = .succeeded ∧
      snapshot.assignmentStatus = some .completed ∧ snapshot.pickupCompleted = true
  | .failed => snapshot.executionPhase = .failed ∧ snapshot.assignmentStatus = some .failed ∧
      (snapshot.pickupCompleted = true ↔
        origin ∈ [some .navigatingToDropoff, some .dropoff])
  | .canceled => snapshot.executionPhase = .canceled ∧
      snapshot.assignmentStatus ∈ [some .canceled, none] ∧ snapshot.pickupCompleted = false
  | .requeued => snapshot.executionPhase = .requeued ∧
      snapshot.assignmentStatus = some .released ∧ snapshot.robotId = none ∧
        snapshot.pickupCompleted = false

def nextOrigin (before after : HaulTaskSnapshot) (origin : Option HaulExecutionPhase) :
    Option HaulExecutionPhase :=
  if after.executionPhase = before.executionPhase then origin else some before.executionPhase

def Recorded (snapshot : HaulTaskSnapshot) (board : Board) : Prop :=
  ∀ assignment, board.assignments.get? snapshot.taskId = some assignment →
    snapshot.assignmentStatus = some assignment.status

section Moves

variable {env : Environment} {snapshot snapshot' : HaulTaskSnapshot} {board board' : Board}
  {op : HaulOp}

lemma Closing.lockstep {origin : Option HaulExecutionPhase} {wmsStatus : WmsTaskStatus}
    {phase : HaulExecutionPhase} {status : AssignmentStatus} {robotId : Option String}
    {reason : Option String} (hclosing : Closing snapshot op wmsStatus phase status)
    (h : Lockstep snapshot origin) (hworking : snapshot.wmsStatus ∈ [.assigned, .inProgress])
    (hrobot : wmsStatus = .requeued → robotId = none) :
    let snapshot' : HaulTaskSnapshot :=
      { snapshot with
        wmsStatus := wmsStatus
        assignmentStatus := some status
        executionPhase := phase
        robotId := robotId
        reason := reason }
    Lockstep snapshot' (nextOrigin snapshot snapshot' origin) := by
  rw [Lockstep] at h ⊢
  cases hclosing with
  | fail _ =>
    cases hs : snapshot.wmsStatus <;> cases hp : snapshot.executionPhase <;>
      simp_all [terminalExecutionPhases, nextOrigin]
  | failToPickup _ hphase =>
    cases hs : snapshot.wmsStatus <;> simp_all [nextOrigin]
  | failToDropoff _ hphase =>
    cases hs : snapshot.wmsStatus <;> simp_all [nextOrigin]
  | succeed hphase =>
    cases hs : snapshot.wmsStatus <;> simp_all
  | cancel _ hpickup hphase => simp_all
  | requeue _ hpickup hphase => simp_all

lemma HaulMove.lockstep (h : HaulMove env snapshot board op false snapshot' board')
    {origin : Option HaulExecutionPhase} (hl : Lockstep snapshot origin) :
    Lockstep snapshot' (nextOrigin snapshot snapshot' origin) := by
  cases h with
  | assigned _ hopen _ _ =>
    rw [Lockstep] at hl ⊢
    rcases hopen with hwms | ⟨hwms, _⟩ <;> simp_all
  | started _ hwms hphase _ _ _ =>
    rw [Lockstep] at hl ⊢
    simp_all
  | arrived _ hwms hphase hleg _ _ =>
    rw [Lockstep] at hl ⊢
    cases hleg <;> simp_all
  | loaded _ hwms hphase =>
    rw [Lockstep] at hl ⊢
    simp_all
  | closed _ hworking hclosing _ _ _ =>
    apply hclosing.lockstep hl hworking
    intro hwms
    simp [hwms]
  | dropped _ hopen hphase =>
    rw [Lockstep] at hl ⊢
    cases hs : snapshot.wmsStatus <;> simp_all
  | refailed _ _ _ =>
    rw [nextOrigin]
    rw [if_pos rfl]
    exact hl

lemma Syncs.recorded {assignments : Dict ℤ AssignmentRecord} {status : AssignmentStatus}
    (hsync : Syncs board.assignments assignments snapshot.taskId status)
    (htask : snapshot'.taskId = snapshot.taskId)
    (hstatus : snapshot'.assignmentStatus = some status)
    (robots : Dict String RobotRecord) : Recorded snapshot' ⟨robots, assignments⟩ := by
  obtain ⟨assignment, updated, _, hupdated, _, rfl⟩ := hsync
  intro held hget
  rw [htask, Dict.get?_set_self] at hget
  rw [hstatus, ← Option.some.inj hget, hupdated]

lemma HaulMove.recorded (h : HaulMove env snapshot board op false snapshot' board')
    (hr : Recorded snapshot board) : Recorded snapshot' board' := by
  cases h with
  | assigned _ _ _ hbinds =>
    intro held hget
    rw [hbinds.get?_self] at hget
    rw [← Option.some.inj hget, hbinds.status_eq]
  | started _ _ _ _ hsync _ =>
    refine hsync.recorded ?_ ?_ _
    · rfl
    · rfl
  | arrived _ _ _ _ _ _ => exact hr
  | loaded _ _ _ => exact hr
  | closed _ _ _ _ hsync _ =>
    refine hsync.recorded ?_ ?_ _
    · rfl
    · rfl
  | dropped _ _ _ => exact hr
  | refailed _ _ _ => exact hr

structure Keeps (before after : FleetView) : Prop where
  assignments_eq : after.board.assignments = before.board.assignments
  kept : ∀ {taskId snapshot}, before.snapshot? taskId = some snapshot →
    after.snapshot? taskId = some snapshot
  new : ∀ {taskId snapshot}, after.snapshot? taskId = some snapshot →
    before.snapshot? taskId = some snapshot ∨
      before.snapshot? taskId = none ∧ Fresh taskId snapshot

lemma Keeps.refl (view : FleetView) : Keeps view view := ⟨rfl, fun h => h, fun h => .inl h⟩

lemma Keeps.move {first view view' : FleetView} {label : FleetLabel} (h : Keeps first view)
    (hmove : FleetMove env view label view')
    (hlabel : (∃ op, label = .registry op) ∨ ∃ taskId, label = .create taskId) :
    Keeps first view' := by
  cases hmove with
  | registry _ _ _ => exact ⟨h.assignments_eq, h.kept, h.new⟩
  | @create taskId _ hnone hfresh =>
    refine ⟨h.assignments_eq, ?_, ?_⟩
    · intro other old hold
      dsimp only
      rw [Function.update_of_ne, h.kept hold]
      rintro rfl
      rw [h.kept hold] at hnone
      simp at hnone
    · intro other found hfound
      dsimp only at hfound
      rw [Function.update_apply] at hfound
      split_ifs at hfound with heq
      · subst heq
        obtain rfl := Option.some.inj hfound
        refine .inr ⟨?_, hfresh⟩
        cases hold : first.snapshot? other with
        | none => rfl
        | some old =>
          rw [h.kept hold] at hnone
          simp at hnone
      · exact h.new hfound
  | haul _ _ => simp at hlabel
  | bind _ => simp at hlabel
  | orphan _ => simp at hlabel

end Moves

/-- A call that makes a haul, a neutral registry call, or an operation of a haul that returns. -/
def Orderly (env : Environment) (fleet : FleetState) : FleetOp → Prop
  | .registry op => op.Neutral
  | .createHaul _ _ _ _ _ => True
  | .haul taskId op => raises ((FleetOp.haul taskId op).call env) fleet = false
  | _ => False

def enteredFrom (before after : FleetState) (origins : ℤ → Option HaulExecutionPhase) :
    ℤ → Option HaulExecutionPhase := fun taskId =>
  match before.snapshot? taskId, after.snapshot? taskId with
  | some snapshot, some snapshot' => nextOrigin snapshot snapshot' (origins taskId)
  | _, _ => origins taskId

def origins (env : Environment) (start : FleetState) (ops : List FleetOp) :
    ℤ → Option HaulExecutionPhase :=
  historyOf (step env) enteredFrom start (fun _ => none) ops

structure Lined (env : Environment) (fleet : FleetState)
    (origins : ℤ → Option HaulExecutionPhase) : Prop where
  good : Good env fleet
  lockstep : ∀ {taskId snapshot}, fleet.snapshot? taskId = some snapshot →
    Lockstep snapshot (origins taskId) ∧ Recorded snapshot fleet.dispatcher.board
  unrecorded : ∀ {taskId}, fleet.snapshot? taskId = none →
    fleet.dispatcher.assignments.get? taskId = none

section Steps

variable {env : Environment} {fleet after : FleetState} {origins : ℤ → Option HaulExecutionPhase}

lemma nextOrigin_self (snapshot : HaulTaskSnapshot) (origin : Option HaulExecutionPhase) :
    nextOrigin snapshot snapshot origin = origin :=
  if_pos rfl

lemma Lined.keeps (h : Lined env fleet origins) (hgood : Good env after)
    (hkeeps : Keeps fleet.view after.view) : Lined env after (enteredFrom fleet after origins) := by
  have hassignments : after.dispatcher.assignments = fleet.dispatcher.assignments :=
    hkeeps.assignments_eq
  refine ⟨hgood, ?_, ?_⟩
  · intro taskId snapshot hget
    rcases hkeeps.new hget with hold | ⟨hnone, hfresh⟩
    · have hbefore : fleet.snapshot? taskId = some snapshot := hold
      have horigin : enteredFrom fleet after origins taskId = origins taskId := by
        simp only [enteredFrom, hbefore, hget, nextOrigin_self]
      obtain ⟨hlock, hrec⟩ := h.lockstep hbefore
      rw [horigin]
      refine ⟨hlock, ?_⟩
      intro assignment hassignment
      apply hrec assignment
      simpa only [FleetDispatcher.board, hassignments] using hassignment
    · constructor
      · simp [Lockstep, hfresh.wmsStatus_eq, hfresh.executionPhase_eq, hfresh.assignmentStatus_eq,
          hfresh.robotId_eq, hfresh.pickupCompleted_eq]
      · intro assignment hassignment
        have hbefore : fleet.dispatcher.assignments.get? taskId = none := h.unrecorded hnone
        simp [FleetDispatcher.board, hassignments, hfresh.taskId_eq, hbefore] at hassignment
  · intro taskId hnone
    rw [hassignments]
    apply h.unrecorded
    cases hold : fleet.snapshot? taskId with
    | none => rfl
    | some snapshot =>
      have hafter : after.snapshot? taskId = some snapshot := hkeeps.kept hold
      simp [hafter] at hnone

lemma Lined.haul (h : Lined env fleet origins) {taskId : ℤ} {op : HaulOp}
    {snapshot snapshot' : HaulTaskSnapshot} (hgood : Good env after)
    (hget : fleet.snapshot? taskId = some snapshot)
    (hmove : HaulMove env snapshot fleet.dispatcher.board op false snapshot' after.dispatcher.board)
    (hsnapshots : after.snapshot? = Function.update fleet.snapshot? taskId (some snapshot')) :
    Lined env after (enteredFrom fleet after origins) := by
  have hid := h.good.sound.owned hget
  obtain ⟨hlock, hrec⟩ := h.lockstep hget
  refine ⟨hgood, ?_, ?_⟩
  · intro other found hfound
    rw [hsnapshots, Function.update_apply] at hfound
    split_ifs at hfound with heq
    · subst heq
      obtain rfl := Option.some.inj hfound
      have horigin : enteredFrom fleet after origins other =
          nextOrigin snapshot snapshot' (origins other) := by
        simp only [enteredFrom, hget, hsnapshots, Function.update_self]
      rw [horigin]
      exact ⟨hmove.lockstep hlock, hmove.recorded hrec⟩
    · have horigin : enteredFrom fleet after origins other = origins other := by
        simp only [enteredFrom, hfound, hsnapshots, Function.update_of_ne heq, nextOrigin_self]
      obtain ⟨hlock', hrec'⟩ := h.lockstep hfound
      rw [horigin]
      refine ⟨hlock', ?_⟩
      intro assignment hassignment
      apply hrec' assignment
      have hne : found.taskId ≠ snapshot.taskId := by
        rw [h.good.sound.owned hfound, hid]
        exact heq
      rw [← hmove.assignments_of_ne hne]
      exact hassignment
  · intro other hnone
    rw [hsnapshots, Function.update_apply] at hnone
    split_ifs at hnone with heq
    have hne : other ≠ snapshot.taskId := by
      rw [hid]
      exact heq
    have hsame := hmove.assignments_of_ne hne
    exact hsame.trans (h.unrecorded hnone)

lemma Lined.step (h : Lined env fleet origins) {op : FleetOp} (hop : Orderly env fleet op) :
    Lined env (step env fleet op) (enteredFrom fleet (step env fleet op) origins) := by
  have hquiet : op.Neutral → (∀ view label, op.Allows env view label →
      (∃ op, label = .registry op) ∨ ∃ taskId, label = .create taskId) →
      Lined env (Fleet.step env fleet op)
        (enteredFrom fleet (Fleet.step env fleet op) origins) := by
    intro hn hlabels
    have hgoes := step_goes h.good hn
    apply h.keeps hgoes.good
    exact hgoes.moves.invariant (Keeps fleet.view)
      (fun view label _ hk hl hm => hk.move hm (hlabels view label hl)) (.refl _)
  cases op with
  | registry op => exact hquiet hop (fun _ _ hl => .inl ⟨op, hl.1⟩)
  | createHaul taskId _ _ _ _ => exact hquiet trivial (fun _ _ hl => .inr ⟨taskId, hl⟩)
  | haul taskId op =>
    cases hget : fleet.snapshot? taskId with
    | none =>
      rw [step_haul_none hget]
      exact h.keeps h.good (.refl _)
    | some snapshot =>
      obtain ⟨snapshot', hmove, hsnapshots⟩ := step_haul h.good hget op
      have hgoes : Goes env _ fleet (Fleet.step env fleet (.haul taskId op)) :=
        step_goes h.good trivial
      have hreturns : raises ((FleetOp.haul taskId op).call env) fleet = false := hop
      rw [hreturns] at hmove
      exact h.haul hgoes.good hget hmove hsnapshots
  | assignTask _ _ _ _ => exact hop.elim
  | dispatchTasks _ _ _ _ => exact hop.elim
  | setAssignmentStatus _ _ _ => exact hop.elim
  | sweep _ _ _ => exact hop.elim
  | reassignRequeued _ _ _ => exact hop.elim

end Steps

structure Joint (snapshot : HaulTaskSnapshot) (origin : Option HaulExecutionPhase)
    (record : Option AssignmentRecord) : Prop where
  pending : snapshot.wmsStatus = .pending → snapshot.executionPhase = .idle ∧
    snapshot.assignmentStatus = none ∧ snapshot.robotId = none
  assigned : snapshot.wmsStatus = .assigned → snapshot.executionPhase = .idle ∧
    snapshot.assignmentStatus = some .assigned ∧ snapshot.robotId.isSome
  inProgress_iff : snapshot.wmsStatus = .inProgress ↔ snapshot.assignmentStatus = some .executing
  executing_iff : snapshot.assignmentStatus = some .executing ↔
    snapshot.executionPhase ∈ [.navigatingToPickup, .pickup, .navigatingToDropoff, .dropoff]
  succeeded_iff : snapshot.wmsStatus = .succeeded ↔ snapshot.executionPhase = .succeeded
  completed_iff : snapshot.executionPhase = .succeeded ↔ snapshot.assignmentStatus = some .completed
  failed_iff : snapshot.wmsStatus = .failed ↔ snapshot.executionPhase = .failed
  failed_assignment_iff : snapshot.executionPhase = .failed ↔
    snapshot.assignmentStatus = some .failed
  canceled_iff : snapshot.wmsStatus = .canceled ↔ snapshot.executionPhase = .canceled
  canceled_assignment : snapshot.wmsStatus = .canceled →
    snapshot.assignmentStatus ∈ [some .canceled, none]
  requeued_iff : snapshot.wmsStatus = .requeued ↔ snapshot.executionPhase = .requeued
  requeued_assignment : snapshot.wmsStatus = .requeued →
    snapshot.assignmentStatus = some .released ∧ snapshot.robotId = none
  pickup_iff : snapshot.pickupCompleted = true ↔
    snapshot.executionPhase ∈ [.navigatingToDropoff, .dropoff, .succeeded] ∨
      snapshot.executionPhase = .failed ∧ origin ∈ [some .navigatingToDropoff, some .dropoff]
  recorded : ∀ assignment, record = some assignment →
    snapshot.assignmentStatus = some assignment.status

section Runs

variable {env : Environment} {start : FleetState}

lemma Joint.of_lockstep {snapshot : HaulTaskSnapshot} {origin : Option HaulExecutionPhase}
    {record : Option AssignmentRecord} (h : Lockstep snapshot origin)
    (hrec : ∀ assignment, record = some assignment →
      snapshot.assignmentStatus = some assignment.status) : Joint snapshot origin record := by
  rw [Lockstep] at h
  cases hs : snapshot.wmsStatus with
  | inProgress =>
    simp only [hs] at h
    obtain ⟨hasg, ⟨hphase, hpickup⟩ | ⟨hphase, hpickup⟩⟩ := h
    · cases hp : snapshot.executionPhase <;> simp [hp] at hphase
      · constructor <;> simp_all
      · constructor <;> simp_all
    · cases hp : snapshot.executionPhase <;> simp [hp] at hphase
      · constructor <;> simp_all
      · constructor <;> simp_all
  | canceled =>
    simp only [hs] at h
    obtain ⟨hphase, hasg, hpickup⟩ := h
    rw [List.mem_pair] at hasg
    rcases hasg with hasg | hasg
    · constructor <;> simp_all
    · constructor <;> simp_all
  | _ => constructor <;> simp_all

lemma lined_of_run (hstart : Started env start) {ops : List FleetOp}
    (hops : Guarded (step env) (Orderly env) start ops) :
    Lined env (runAll (step env) start ops) (origins env start ops) := by
  have hlined : Lined env start (fun _ => none) := by
    refine ⟨hstart.good, ?_, fun _ => hstart.unassigned _⟩
    intro other found hfound
    rw [hstart.snapshot_eq] at hfound
    simp at hfound
  exact hops.history_invariant (Lined env) (fun _ _ _ h hop => h.step hop) hlined

/-- After every orderly run from a started fleet, each haul's machines agree. -/
theorem joint_of_run (hstart : Started env start) {ops : List FleetOp}
    (hops : Guarded (step env) (Orderly env) start ops) {taskId : ℤ} {snapshot : HaulTaskSnapshot}
    (hget : (runAll (step env) start ops).snapshot? taskId = some snapshot) :
    Joint snapshot (origins env start ops taskId)
      ((runAll (step env) start ops).dispatcher.assignments.get? taskId) := by
  have hlast := lined_of_run hstart hops
  obtain ⟨hlock, hrec⟩ := hlast.lockstep hget
  apply Joint.of_lockstep hlock
  intro assignment hassignment
  apply hrec assignment
  rw [hlast.good.sound.owned hget]
  exact hassignment

def lostDropoff : List FleetOp :=
  [newHaul 1, assignHaul 1, .haul 1 .start, .haul 1 (.completeNavigationToPickup false),
    .haul 1 .completePickup, .haul 1 (.completeNavigationToDropoff true)]

theorem joint_of_run_lost_dropoff :
    ∃ snapshot, (stillFleet lostDropoff).snapshot? 1 = some snapshot ∧
    Joint snapshot (origins still (opened still ⟨0, none⟩) lostDropoff 1)
      ((stillFleet lostDropoff).dispatcher.assignments.get? 1) := by
  have hknown : ((stillFleet lostDropoff).snapshot? 1).isSome := by decide +kernel
  obtain ⟨snapshot, hget⟩ := Option.isSome_iff_exists.mp hknown
  refine ⟨snapshot, hget, joint_of_run seeded_still.toStarted ?_ hget⟩
  refine ⟨trivial, ?_, ?_, ?_, ?_, ?_, trivial⟩
  · change raises _ _ = false
    decide +kernel
  · change raises _ _ = false
    decide +kernel
  · change raises _ _ = false
    decide +kernel
  · change raises _ _ = false
    decide +kernel
  · change raises _ _ = false
    decide +kernel

end Runs

end Fleet
