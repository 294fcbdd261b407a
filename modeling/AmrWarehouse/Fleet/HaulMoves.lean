import AmrWarehouse.Fleet.Board
import AmrWarehouse.Fleet.Operations

/-! The moves of a haul on the board: what an operation of its controller comes to, returned or
raised. -/

namespace Fleet

open Library

/-- The statuses, the phase, the robot and the pickup flag fit together. Calls that raised leave
phases that no completed call leaves. -/
def HaulTaskSnapshot.Coherent (snapshot : HaulTaskSnapshot) : Prop :=
  match snapshot.wmsStatus with
  | .pending => snapshot.assignmentStatus = none ∧ snapshot.robotId = none ∧
      snapshot.pickupCompleted = false ∧ snapshot.executionPhase ∈ [.idle, .failed, .requeued]
  | .assigned => snapshot.assignmentStatus = some .assigned ∧ snapshot.robotId.isSome ∧
      snapshot.pickupCompleted = false ∧ snapshot.executionPhase ∈ [.idle, .failed, .requeued]
  | .inProgress => snapshot.assignmentStatus = some .executing ∧ snapshot.robotId.isSome ∧
      (snapshot.pickupCompleted = false ∧
          snapshot.executionPhase ∈ [.navigatingToPickup, .pickup, .failed, .requeued] ∨
        snapshot.pickupCompleted = true ∧
          snapshot.executionPhase ∈ [.navigatingToDropoff, .dropoff])
  | .succeeded => snapshot.assignmentStatus = some .completed ∧ snapshot.robotId.isSome ∧
      snapshot.pickupCompleted = true ∧ snapshot.executionPhase = .succeeded
  | .failed => snapshot.assignmentStatus = some .failed ∧ snapshot.robotId.isSome ∧
      (snapshot.executionPhase = .failed ∨
        snapshot.executionPhase = .requeued ∧ snapshot.pickupCompleted = false)
  | .canceled => snapshot.executionPhase = .canceled ∧ snapshot.pickupCompleted = false ∧
      (snapshot.assignmentStatus = some .canceled ∧ snapshot.robotId.isSome ∨
        snapshot.assignmentStatus ∈ [none, some .released] ∧ snapshot.robotId = none)
  | .requeued => snapshot.assignmentStatus = some .released ∧ snapshot.robotId = none ∧
      snapshot.pickupCompleted = false ∧ snapshot.executionPhase ∈ [.requeued, .idle, .failed]

namespace HaulTaskSnapshot.Coherent

variable {snapshot : HaulTaskSnapshot}

lemma unassigned (h : snapshot.Coherent) (hwms : snapshot.wmsStatus ∈ [.pending, .requeued]) :
    snapshot.robotId = none ∧ snapshot.pickupCompleted = false ∧
      snapshot.executionPhase ∈ [.idle, .failed, .requeued] := by
  rw [HaulTaskSnapshot.Coherent] at h
  cases hs : snapshot.wmsStatus <;> simp_all
  tauto

lemma terminal (h : snapshot.Coherent) (hwms : snapshot.wmsStatus ∈ terminalWmsStatuses) :
    snapshot.executionPhase ∈ terminalExecutionPhases := by
  rw [HaulTaskSnapshot.Coherent] at h
  cases hs : snapshot.wmsStatus <;> simp_all [terminalWmsStatuses, terminalExecutionPhases]
  tauto

lemma inProgress (h : snapshot.Coherent) (hphase : snapshot.executionPhase ∈
      [.navigatingToPickup, .pickup, .navigatingToDropoff, .dropoff]) :
    snapshot.wmsStatus = .inProgress := by
  rw [HaulTaskSnapshot.Coherent] at h
  cases hs : snapshot.wmsStatus <;> cases hp : snapshot.executionPhase <;> simp_all

lemma active_iff (h : snapshot.Coherent) :
    snapshot.assignmentStatus ∈ activeAssignmentStatuses.map some ↔
      snapshot.wmsStatus ∈ [.assigned, .inProgress] := by
  rw [HaulTaskSnapshot.Coherent] at h
  cases hs : snapshot.wmsStatus <;> simp_all [activeAssignmentStatuses]
  rcases h with ⟨_, _, ⟨h, _⟩ | ⟨h | h, _⟩⟩ <;> simp [h]

end HaulTaskSnapshot.Coherent

/-- The board has the record that an active snapshot speaks of, and every robot it names. -/
structure Tied (snapshot : HaulTaskSnapshot) (board : Board) : Prop where
  coherent : snapshot.Coherent
  record : ∀ {status}, snapshot.assignmentStatus = some status →
    status ∈ activeAssignmentStatuses → ∃ assignment,
      board.assignments.get? snapshot.taskId = some assignment ∧ assignment.status = status ∧
        snapshot.robotId = some assignment.robotId
  known : ∀ {robotId}, snapshot.robotId = some robotId → (board.robots.get? robotId).isSome

lemma Tied.working {snapshot : HaulTaskSnapshot} {board : Board} (ht : Tied snapshot board)
    (hworking : snapshot.wmsStatus ∈ [.assigned, .inProgress]) :
    snapshot.assignmentStatus ∈ activeAssignmentStatuses.map some ∧
      ∃ assignment, board.assignments.get? snapshot.taskId = some assignment ∧
        assignment.isActive ∧ snapshot.robotId = some assignment.robotId ∧
          (board.robots.get? assignment.robotId).isSome := by
  have hasg := ht.coherent.active_iff.mpr hworking
  obtain ⟨status, hactive, hstatus⟩ := List.mem_map.mp hasg
  obtain ⟨assignment, hget, hown, hrobot⟩ := ht.record hstatus.symm hactive
  refine ⟨hasg, assignment, hget, ?_, hrobot,
    ht.known hrobot⟩
  simpa [AssignmentRecord.isActive, hown] using hactive

def HaulTaskSnapshot.CanAssign (env : Environment) (snapshot : HaulTaskSnapshot) (board : Board)
    (now : Datetime) (heartbeatTimeoutSec : Floating) : Prop :=
  ∃ task, DispatchTask.create snapshot.taskId snapshot.pickupStation
      (some snapshot.dropoffStation) snapshot.priority = .ok task ∧
    board.CanAssign env task now heartbeatTimeoutSec Dict.empty

def HaulTaskSnapshot.Gives (env : Environment) (snapshot : HaulTaskSnapshot) (board : Board)
    (now : Datetime) (heartbeatTimeoutSec : Floating) : Prop :=
  (snapshot.wmsStatus = .pending ∨
    snapshot.wmsStatus = .requeued ∧ snapshot.executionPhase = .requeued) ∧
  snapshot.CanAssign env board now heartbeatTimeoutSec

def HaulOp.Orphans (env : Environment) (snapshot : HaulTaskSnapshot) (board : Board) :
    HaulOp → Prop
  | assign now heartbeatTimeoutSec =>
      snapshot.Gives env board now heartbeatTimeoutSec ∧ ¬ env.Converts now
  | _ => False

def HaulOp.Tears (env : Environment) (snapshot : HaulTaskSnapshot) (board : Board) : HaulOp → Prop
  | assign now heartbeatTimeoutSec =>
      snapshot.wmsStatus = .requeued ∧ snapshot.executionPhase = .requeued ∧
          ¬ snapshot.CanAssign env board now heartbeatTimeoutSec ∨
        (assign now heartbeatTimeoutSec).Orphans env snapshot board
  | start => snapshot.wmsStatus = .assigned ∧ snapshot.executionPhase ≠ .idle
  | fail _ => snapshot.wmsStatus ∈ [.pending, .requeued] ∧ snapshot.executionPhase = .idle
  | requeue _ => snapshot.wmsStatus ∈ [.pending, .requeued] ∧ snapshot.executionPhase = .idle
  | _ => False

def HaulOp.Accepts (env : Environment) (snapshot : HaulTaskSnapshot) (board : Board) : HaulOp → Prop
  | assign now heartbeatTimeoutSec =>
      snapshot.Gives env board now heartbeatTimeoutSec ∧ env.Converts now
  | start => snapshot.wmsStatus = .assigned ∧ snapshot.executionPhase = .idle
  | completeNavigationToPickup _ => snapshot.executionPhase = .navigatingToPickup
  | completePickup => snapshot.executionPhase = .pickup
  | completeNavigationToDropoff _ => snapshot.executionPhase = .navigatingToDropoff
  | completeDropoff => snapshot.executionPhase = .dropoff
  | fail _ => snapshot.wmsStatus ∉ [.pending, .requeued]
  | cancel _ => snapshot.pickupCompleted = false ∧
      snapshot.executionPhase ∉ terminalExecutionPhases
  | requeue _ => snapshot.pickupCompleted = false ∧
      snapshot.executionPhase ∈ [.idle, .navigatingToPickup] ∧
        snapshot.wmsStatus ∈ [.assigned, .inProgress]

inductive Closing (snapshot : HaulTaskSnapshot) :
    HaulOp → WmsTaskStatus → HaulExecutionPhase → AssignmentStatus → Prop
  | fail (reason : String) : Closing snapshot (.fail reason) .failed
      (if snapshot.executionPhase ∈ terminalExecutionPhases then snapshot.executionPhase
        else .failed) .failed
  | failToPickup (simulateFailure : Bool) : snapshot.executionPhase = .navigatingToPickup →
      Closing snapshot (.completeNavigationToPickup simulateFailure) .failed .failed .failed
  | failToDropoff (simulateFailure : Bool) : snapshot.executionPhase = .navigatingToDropoff →
      Closing snapshot (.completeNavigationToDropoff simulateFailure) .failed .failed .failed
  | succeed : snapshot.executionPhase = .dropoff →
      Closing snapshot .completeDropoff .succeeded .succeeded .completed
  | cancel (reason : String) : snapshot.pickupCompleted = false →
      snapshot.executionPhase ∉ terminalExecutionPhases →
      Closing snapshot (.cancel reason) .canceled .canceled .canceled
  | requeue (reason : String) : snapshot.pickupCompleted = false →
      snapshot.executionPhase ∈ [.idle, .navigatingToPickup] →
      Closing snapshot (.requeue reason) .requeued .requeued .released

inductive Leg : HaulOp → HaulExecutionPhase → HaulExecutionPhase → Prop
  | pickup (simulateFailure : Bool) :
      Leg (.completeNavigationToPickup simulateFailure) .navigatingToPickup .pickup
  | dropoff (simulateFailure : Bool) :
      Leg (.completeNavigationToDropoff simulateFailure) .navigatingToDropoff .dropoff

/-- One operation of a haul controller on the snapshot and the board. The flag says that it
raised. -/
inductive HaulMove (env : Environment) (snapshot : HaulTaskSnapshot) (board : Board) :
    HaulOp → Bool → HaulTaskSnapshot → Board → Prop
  | refused {op : HaulOp} : ¬ op.Tears env snapshot board → ¬ op.Accepts env snapshot board →
      HaulMove env snapshot board op true snapshot board
  | rephased {op : HaulOp} {phase : HaulExecutionPhase} (reason : Option String) :
      op.Tears env snapshot board → ¬ op.Orphans env snapshot board →
      snapshot.wmsStatus ∈ [.pending, .requeued] → phase ∈ [.idle, .failed, .requeued] →
      phase ≠ snapshot.executionPhase →
      HaulMove env snapshot board op true
        { snapshot with executionPhase := phase, reason := reason } board
  | halfStarted {assignments : Dict ℤ AssignmentRecord} (reason : Option String) :
      snapshot.wmsStatus = .assigned → snapshot.executionPhase ≠ .idle →
      Syncs board.assignments assignments snapshot.taskId .executing →
      HaulMove env snapshot board .start true
        { snapshot with
          wmsStatus := .inProgress
          assignmentStatus := some .executing
          reason := reason }
        ⟨board.robots, assignments⟩
  | assigned {now : Datetime} {heartbeatTimeoutSec : Floating} {assignment : AssignmentRecord}
      {after : Board} (reason : Option String) :
      snapshot.Gives env board now heartbeatTimeoutSec → env.Converts now →
      Binds board after snapshot.taskId assignment →
      HaulMove env snapshot board (.assign now heartbeatTimeoutSec) false
        { snapshot with
          wmsStatus := .assigned
          assignmentStatus := some .assigned
          executionPhase :=
            if snapshot.wmsStatus = .requeued then .idle else snapshot.executionPhase
          robotId := some assignment.robotId
          reason := reason }
        after
  | orphaned {now : Datetime} {heartbeatTimeoutSec : Floating} {after : Board}
      (reason : Option String) :
      snapshot.Gives env board now heartbeatTimeoutSec → ¬ env.Converts now →
      Orphans board after snapshot.taskId →
      HaulMove env snapshot board (.assign now heartbeatTimeoutSec) true
        { snapshot with
          executionPhase :=
            if snapshot.wmsStatus = .requeued then .idle else snapshot.executionPhase
          reason := reason }
        after
  | started {robotId : String} {assignments : Dict ℤ AssignmentRecord}
      {robots : Dict String RobotRecord} (reason : Option String) :
      snapshot.wmsStatus = .assigned → snapshot.executionPhase = .idle →
      snapshot.robotId = some robotId →
      Syncs board.assignments assignments snapshot.taskId .executing →
      Touches board.robots robots robotId →
      HaulMove env snapshot board .start false
        { snapshot with
          wmsStatus := .inProgress
          assignmentStatus := some .executing
          executionPhase := .navigatingToPickup
          reason := reason }
        ⟨robots, assignments⟩
  | arrived {op : HaulOp} {origin target : HaulExecutionPhase} {robotId : String}
      {robots : Dict String RobotRecord} (reason : Option String) :
      snapshot.wmsStatus = .inProgress → snapshot.executionPhase = origin → Leg op origin target →
      snapshot.robotId = some robotId → Touches board.robots robots robotId →
      HaulMove env snapshot board op false
        { snapshot with executionPhase := target, reason := reason } ⟨robots, board.assignments⟩
  | loaded (reason : Option String) :
      snapshot.wmsStatus = .inProgress → snapshot.executionPhase = .pickup →
      HaulMove env snapshot board .completePickup false
        { snapshot with
          executionPhase := .navigatingToDropoff
          pickupCompleted := true
          reason := reason }
        board
  | closed {op : HaulOp} {wmsStatus : WmsTaskStatus} {phase : HaulExecutionPhase}
      {status : AssignmentStatus} {robotId : String} {assignments : Dict ℤ AssignmentRecord}
      {robots : Dict String RobotRecord} (reason : Option String) :
      snapshot.wmsStatus ∈ [.assigned, .inProgress] →
      Closing snapshot op wmsStatus phase status → snapshot.robotId = some robotId →
      Syncs board.assignments assignments snapshot.taskId status →
      Frees board.robots robots robotId →
      HaulMove env snapshot board op false
        { snapshot with
          wmsStatus := wmsStatus
          assignmentStatus := some status
          executionPhase := phase
          robotId := if wmsStatus = .requeued then none else snapshot.robotId
          reason := reason }
        ⟨robots, assignments⟩
  | dropped (reason : Option String) {cause : String} :
      snapshot.wmsStatus ∈ [.pending, .requeued] → snapshot.executionPhase = .idle →
      HaulMove env snapshot board (.cancel cause) false
        { snapshot with wmsStatus := .canceled, executionPhase := .canceled, reason := reason }
        board
  | refailed {cause : String} {robots : Dict String RobotRecord} :
      snapshot.wmsStatus ∈ terminalWmsStatuses →
      (∀ robotId, snapshot.robotId = some robotId → Frees board.robots robots robotId) →
      (snapshot.robotId = none → robots = board.robots) →
      HaulMove env snapshot board (.fail cause) false snapshot ⟨robots, board.assignments⟩

namespace HaulMove

variable {env : Environment} {snapshot : HaulTaskSnapshot} {board : Board} {op : HaulOp}

lemma ended {wmsStatus : WmsTaskStatus} {phase : HaulExecutionPhase} {status : AssignmentStatus}
    {robotId : String} {assignments : Dict ℤ AssignmentRecord}
    {robots : Dict String RobotRecord} (reason : Option String) (hkept : wmsStatus ≠ .requeued)
    (hworking : snapshot.wmsStatus ∈ [.assigned, .inProgress])
    (hclosing : Closing snapshot op wmsStatus phase status)
    (hrobot : snapshot.robotId = some robotId)
    (hsync : Syncs board.assignments assignments snapshot.taskId status)
    (hfree : Frees board.robots robots robotId) :
    HaulMove env snapshot board op false
      { snapshot with
        wmsStatus := wmsStatus
        assignmentStatus := some status
        executionPhase := phase
        reason := reason }
      ⟨robots, assignments⟩ := by
  have hmove : HaulMove env snapshot board op false _ ⟨robots, assignments⟩ :=
    .closed reason hworking hclosing hrobot hsync hfree
  simpa only [hkept, if_false] using hmove

variable {raised : Bool} {snapshot' : HaulTaskSnapshot} {board' : Board}

@[simp] lemma taskId_eq (h : HaulMove env snapshot board op raised snapshot' board') :
    snapshot'.taskId = snapshot.taskId := by
  cases h <;> rfl

lemma coherent (h : HaulMove env snapshot board op raised snapshot' board')
    (hc : snapshot.Coherent) : snapshot'.Coherent := by
  rw [HaulTaskSnapshot.Coherent] at hc ⊢
  cases h with
  | refused _ _ => exact hc
  | rephased _ _ _ hopen hphase _ =>
    cases hs : snapshot.wmsStatus <;> simp_all
    tauto
  | halfStarted _ hwms hphase _ => simp_all
  | assigned _ hgives _ _ =>
    rcases hgives.1 with hwms | ⟨hwms, _⟩ <;> simp_all
  | orphaned _ hgives _ _ =>
    rcases hgives.1 with hwms | ⟨hwms, _⟩ <;> simp_all
  | started _ hwms hphase hrobot _ _ => simp_all
  | arrived _ hwms hphase hleg hrobot _ =>
    cases hleg <;> simp_all
  | loaded _ hwms hphase => simp_all
  | closed _ hworking hclosing hrobot _ _ =>
    cases hclosing with
    | fail reason =>
      cases hs : snapshot.wmsStatus <;> cases hp : snapshot.executionPhase <;>
        simp_all [terminalExecutionPhases]
    | failToPickup _ hphase => simp_all
    | failToDropoff _ hphase => simp_all
    | succeed hphase => cases hs : snapshot.wmsStatus <;> simp_all
    | cancel _ hpickup hphase => simp_all
    | requeue _ hpickup hphase => simp_all
  | dropped _ hopen hphase =>
    cases hs : snapshot.wmsStatus <;> simp_all
  | refailed hterminal _ _ => exact hc

lemma tied (h : HaulMove env snapshot board op raised snapshot' board')
    (ht : Tied snapshot board) : Tied snapshot' board' := by
  have hcoherent := h.coherent ht.coherent
  have hbegun : ∀ {assignments : Dict ℤ AssignmentRecord},
      snapshot.wmsStatus = .assigned →
      Syncs board.assignments assignments snapshot.taskId .executing → ∃ assignment,
        assignments.get? snapshot.taskId = some assignment ∧ assignment.status = .executing ∧
          snapshot.robotId = some assignment.robotId := by
    intro assignments hwms hsync
    obtain ⟨_, assignment, hget, _, hrobot, _⟩ := ht.working (by simp [hwms])
    obtain ⟨updated, hupdated, hstatus, hown⟩ := hsync.get? hget
    exact ⟨updated, hupdated, hstatus, by rw [hrobot, hown]⟩
  cases h with
  | refused _ _ => exact ht
  | rephased _ _ _ _ _ _ => exact ⟨hcoherent, ht.record, ht.known⟩
  | halfStarted _ hwms _ hsync =>
    refine ⟨hcoherent, ?_, ht.known⟩
    intro status hstatus _
    obtain rfl := Option.some.inj hstatus
    exact hbegun hwms hsync
  | assigned _ _ _ hbinds =>
    refine ⟨hcoherent, ?_, ?_⟩
    · intro status hstatus _
      obtain rfl := Option.some.inj hstatus
      exact ⟨_, hbinds.get?_self, hbinds.status_eq, rfl⟩
    · intro robotId hrobot
      obtain rfl := Option.some.inj hrobot
      obtain ⟨robot, _, hget, _⟩ := hbinds.robot
      exact hbinds.known (by simp [hget])
  | orphaned _ _ _ horphans =>
    refine ⟨hcoherent, ?_, fun hrobot => horphans.known (ht.known hrobot)⟩
    intro status hstatus hactive
    rw [horphans.assignments_eq]
    exact ht.record hstatus hactive
  | started _ hwms _ _ hsync htouch =>
    refine ⟨hcoherent, ?_, fun hrobot => htouch.calm.known (ht.known hrobot)⟩
    intro status hstatus _
    obtain rfl := Option.some.inj hstatus
    exact hbegun hwms hsync
  | arrived _ _ _ _ _ htouch =>
    exact ⟨hcoherent, ht.record, fun hrobot => htouch.calm.known (ht.known hrobot)⟩
  | loaded _ _ _ => exact ⟨hcoherent, ht.record, ht.known⟩
  | closed _ _ hclosing _ _ hfree =>
    refine ⟨hcoherent, ?_, ?_⟩
    · intro status hstatus hactive
      obtain rfl := Option.some.inj hstatus
      cases hclosing <;> simp [activeAssignmentStatuses] at hactive
    · intro robotId hrobot
      apply hfree.calm.known
      apply ht.known
      dsimp only at hrobot
      split_ifs at hrobot
      exact hrobot
  | dropped _ _ _ => exact ⟨hcoherent, ht.record, ht.known⟩
  | refailed _ hfree hnone =>
    refine ⟨hcoherent, ht.record, ?_⟩
    intro robotId hrobot
    exact (hfree robotId hrobot).calm.known (ht.known hrobot)

lemma assignments_of_ne (h : HaulMove env snapshot board op raised snapshot' board') {taskId : ℤ}
    (hne : taskId ≠ snapshot.taskId) :
    board'.assignments.get? taskId = board.assignments.get? taskId := by
  cases h with
  | halfStarted _ _ _ hsync => exact hsync.get?_of_ne hne
  | assigned _ _ _ hbinds => exact hbinds.get?_of_ne hne
  | orphaned _ _ _ horphans => rw [horphans.assignments_eq]
  | started _ _ _ _ hsync _ => exact hsync.get?_of_ne hne
  | closed _ _ _ _ hsync _ => exact hsync.get?_of_ne hne
  | _ => rfl

lemma known (h : HaulMove env snapshot board op raised snapshot' board') {robotId : String}
    (hknown : (board.robots.get? robotId).isSome) : (board'.robots.get? robotId).isSome := by
  cases h with
  | assigned _ _ _ hbinds => exact hbinds.known hknown
  | orphaned _ _ _ horphans => exact horphans.known hknown
  | started _ _ _ _ _ htouch => exact htouch.calm.known hknown
  | arrived _ _ _ _ _ htouch => exact htouch.calm.known hknown
  | closed _ _ _ _ _ hfree => exact hfree.calm.known hknown
  | refailed _ hfree hnone =>
    cases hrobot : snapshot.robotId with
    | none =>
      rw [hnone hrobot]
      exact hknown
    | some id => exact (hfree id hrobot).calm.known hknown
  | _ => exact hknown

lemma consistent (h : HaulMove env snapshot board op raised snapshot' board')
    (hc : Consistent board.robots) : Consistent board'.robots := by
  cases h with
  | assigned _ _ _ hbinds => exact hbinds.consistent hc
  | orphaned _ _ _ horphans => exact horphans.consistent hc
  | started _ _ _ _ _ htouch => exact htouch.consistent hc
  | arrived _ _ _ _ _ htouch => exact htouch.consistent hc
  | closed _ _ _ _ _ hfree => exact hfree.consistent hc
  | refailed _ hfree hnone =>
    cases hrobot : snapshot.robotId with
    | none =>
      rw [hnone hrobot]
      exact hc
    | some id => exact (hfree id hrobot).consistent hc
  | _ => exact hc

end HaulMove

section Acceptance

variable {env : Environment} {snapshot snapshot' : HaulTaskSnapshot} {board board' : Board}
  {op : HaulOp} {raised : Bool}

lemma HaulOp.Tears.not_accepts (h : op.Tears env snapshot board) :
    ¬ op.Accepts env snapshot board := by
  intro haccepts
  cases op with
  | assign now timeout =>
    obtain ⟨_, _, hnot⟩ | horphans := h
    · exact hnot haccepts.1.2
    · exact horphans.2 haccepts.2
  | start => exact h.2 haccepts.2
  | fail reason => exact haccepts h.1
  | requeue reason =>
    have hopen := h.1
    have hworking := haccepts.2.2
    cases hs : snapshot.wmsStatus <;> simp_all
  | _ => exact h

lemma Closing.accepts {wmsStatus : WmsTaskStatus} {phase : HaulExecutionPhase}
    {status : AssignmentStatus} (h : Closing snapshot op wmsStatus phase status)
    (hworking : snapshot.wmsStatus ∈ [.assigned, .inProgress]) :
    op.Accepts env snapshot board := by
  cases h with
  | fail reason =>
    change snapshot.wmsStatus ∉ _
    cases hs : snapshot.wmsStatus <;> simp_all
  | failToPickup _ hphase => exact hphase
  | failToDropoff _ hphase => exact hphase
  | succeed hphase => exact hphase
  | cancel _ hpickup hphase => exact ⟨hpickup, hphase⟩
  | requeue _ hpickup hphase => exact ⟨hpickup, hphase, hworking⟩

lemma HaulMove.returned_iff (h : HaulMove env snapshot board op raised snapshot' board')
    (hc : snapshot.Coherent) : raised = false ↔ op.Accepts env snapshot board := by
  cases h with
  | refused _ haccepts => simp [haccepts]
  | rephased _ htears _ _ _ _ => simp [htears.not_accepts]
  | halfStarted _ _ hphase _ =>
    have hnot : ¬ HaulOp.start.Accepts env snapshot board := fun haccepts => hphase haccepts.2
    simp [hnot]
  | assigned _ hgives hconverts _ => exact iff_of_true rfl ⟨hgives, hconverts⟩
  | orphaned _ _ hnot _ =>
    refine iff_of_false (by simp) ?_
    rintro ⟨_, hconverts⟩
    exact hnot hconverts
  | started _ hwms hphase _ _ _ => exact iff_of_true rfl ⟨hwms, hphase⟩
  | arrived _ _ hphase hleg _ _ =>
    cases hleg with
    | pickup _ => exact iff_of_true rfl hphase
    | dropoff _ => exact iff_of_true rfl hphase
  | loaded _ _ hphase => exact iff_of_true rfl hphase
  | closed _ hworking hclosing _ _ _ => exact iff_of_true rfl (hclosing.accepts hworking)
  | dropped _ hopen hphase =>
    have hunassigned := hc.unassigned hopen
    refine iff_of_true rfl ⟨hunassigned.2.1, ?_⟩
    simp [hphase, terminalExecutionPhases]
  | refailed hterminal _ _ =>
    exact iff_of_true rfl fun hopen => not_terminal_of_open hopen hterminal

end Acceptance

end Fleet
