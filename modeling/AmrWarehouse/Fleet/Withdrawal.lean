import AmrWarehouse.Fleet.Lifecycle

/-! When a haul can be canceled or requeued. -/

namespace Fleet

open Library

section Moves

variable {env : Environment} {snapshot snapshot' : HaulTaskSnapshot} {board board' : Board}
  {op : HaulOp}

def HaulOp.withdrawals (reason : String) : List HaulOp := [.cancel reason, .requeue reason]

lemma HaulMove.freed {reason : String} (hop : op ∈ HaulOp.withdrawals reason)
    (h : HaulMove env snapshot board op false snapshot' board') (hc : snapshot.Coherent)
    {robotId : String} {robot : RobotRecord} (hrobot : snapshot.robotId = some robotId)
    (hget : board.robots.get? robotId = some robot) (hactive : robot.state ∈ activeTaskStates) :
    ∃ moved, board'.robots.get? robotId = some moved ∧ moved.state = .idle ∧
      moved.currentTaskId = none := by
  have hkind : op = .cancel reason ∨ op = .requeue reason := by
    simpa [HaulOp.withdrawals] using hop
  cases h with
  | closed _ hworking hclosing hbound hsync hfrees =>
    obtain rfl := Option.some.inj (hbound.symm.trans hrobot)
    obtain ⟨held, hheld, ⟨hrested, -⟩ | ⟨-, moved, -, hidle, htask, heq⟩⟩ := hfrees
    · obtain rfl := Option.some.inj (hheld.symm.trans hget)
      exact absurd hactive hrested
    · exact ⟨moved, by rw [heq, Dict.get?_set_self], hidle, htask⟩
  | dropped _ hopen _ =>
    rw [(hc.unassigned hopen).1] at hrobot
    simp at hrobot
  | arrived _ _ _ hleg _ _ => cases hleg <;> simp at hkind
  | _ => simp at hkind

end Moves

/-- `cancel` and `requeue` return exactly where the business status allows it, and let the robot
go. -/
structure AvailableAsAllowed (env : Environment) (fleet : FleetState) (taskId : ℤ)
    (snapshot : HaulTaskSnapshot) (reason : String) : Prop where
  cancel_iff : raises ((FleetOp.haul taskId (.cancel reason)).call env) fleet = false ↔
    .canceled ∈ allowedWmsTransitions snapshot.wmsStatus
  requeue_iff : raises ((FleetOp.haul taskId (.requeue reason)).call env) fleet = false ↔
    .requeued ∈ allowedWmsTransitions snapshot.wmsStatus
  freed : ∀ op ∈ HaulOp.withdrawals reason,
    raises ((FleetOp.haul taskId op).call env) fleet = false →
    ∀ robotId robot, snapshot.robotId = some robotId →
      fleet.registry.robots.get? robotId = some robot → robot.state ∈ activeTaskStates →
      ∃ moved, (step env fleet (.haul taskId op)).registry.robots.get? robotId = some moved ∧
        moved.state = .idle ∧ moved.currentTaskId = none

section Runs

variable {env : Environment} {start fleet : FleetState} {ops : List FleetOp} {taskId : ℤ}
  {snapshot : HaulTaskSnapshot}

lemma cancel_accepted_iff {origin : Option HaulExecutionPhase} (h : Lockstep snapshot origin)
    (hpickup : snapshot.pickupCompleted = false) (board : Board) (reason : String) :
    (HaulOp.cancel reason).Accepts env snapshot board ↔
      .canceled ∈ allowedWmsTransitions snapshot.wmsStatus ∧ snapshot.wmsStatus ≠ .requeued := by
  change (_ ∧ _) ↔ _
  rw [Lockstep] at h
  cases hs : snapshot.wmsStatus <;> cases hp : snapshot.executionPhase <;>
    simp_all [allowedWmsTransitions, terminalExecutionPhases]

lemma requeue_accepted_iff {origin : Option HaulExecutionPhase} (h : Lockstep snapshot origin)
    (hpickup : snapshot.pickupCompleted = false) (board : Board) (reason : String) :
    (HaulOp.requeue reason).Accepts env snapshot board ↔
      .requeued ∈ allowedWmsTransitions snapshot.wmsStatus ∧ snapshot.executionPhase ≠ .pickup := by
  change (_ ∧ _ ∧ _) ↔ _
  rw [Lockstep] at h
  cases hs : snapshot.wmsStatus <;> cases hp : snapshot.executionPhase <;>
    simp_all [allowedWmsTransitions]

/-- After every orderly run the two tables agree on a haul that has not been loaded, unless it has
been requeued or is at its pickup. -/
theorem withdrawal_available_iff (hstart : Started env start)
    (hops : Guarded (step env) (Orderly env) start ops)
    (hget : (runAll (step env) start ops).snapshot? taskId = some snapshot)
    (hpickup : snapshot.pickupCompleted = false) (reason : String) :
    AvailableAsAllowed env (runAll (step env) start ops) taskId snapshot reason ↔
      snapshot.wmsStatus ≠ .requeued ∧ snapshot.executionPhase ≠ .pickup := by
  have hlined := lined_of_run hstart hops
  obtain ⟨hlock, -⟩ := hlined.lockstep hget
  have hcancel := (returns_iff hlined.good hget (.cancel reason)).trans
    (cancel_accepted_iff hlock hpickup _ reason)
  have hrequeue := (returns_iff hlined.good hget (.requeue reason)).trans
    (requeue_accepted_iff hlock hpickup _ reason)
  constructor
  · intro havailable
    constructor
    · intro hwms
      have hallowed : .canceled ∈ allowedWmsTransitions snapshot.wmsStatus := by
        rw [hwms]
        decide
      exact (hcancel.mp (havailable.cancel_iff.mpr hallowed)).2 hwms
    · intro hphase
      have hwms : snapshot.wmsStatus = .inProgress :=
        (hlined.good.sound.tied hget).coherent.inProgress (by simp [hphase])
      have hallowed : .requeued ∈ allowedWmsTransitions snapshot.wmsStatus := by
        rw [hwms]
        decide
      exact (hrequeue.mp (havailable.requeue_iff.mpr hallowed)).2 hphase
  · rintro ⟨hwms, hphase⟩
    refine ⟨hcancel.trans (and_iff_left hwms), hrequeue.trans (and_iff_left hphase), ?_⟩
    intro op hop hreturns robotId robot hrobot hfound hactive
    obtain ⟨snapshot', hmove, -⟩ := step_haul hlined.good hget op
    rw [hreturns] at hmove
    exact hmove.freed hop (hlined.good.sound.tied hget).coherent hrobot hfound hactive

def assigned : List FleetOp := [newHaul 1, assignHaul 1]

def atPickup : List FleetOp :=
  assigned ++ [.haul 1 .start, .haul 1 (.completeNavigationToPickup false)]

def requeued : List FleetOp := assigned ++ [.haul 1 (.requeue "")]

theorem withdrawal_available_iff_assigned :
    ∃ snapshot, (stillFleet assigned).snapshot? 1 = some snapshot ∧
      (AvailableAsAllowed still (stillFleet assigned) 1 snapshot "" ↔
        snapshot.wmsStatus ≠ .requeued ∧ snapshot.executionPhase ≠ .pickup) := by
  have hpickup : ((stillFleet assigned).snapshot? 1).map HaulTaskSnapshot.pickupCompleted =
      some false := by decide +kernel
  obtain ⟨snapshot, hget, hpickup⟩ := Option.map_eq_some_iff.mp hpickup
  refine ⟨snapshot, hget, withdrawal_available_iff seeded_still.toStarted ?_ hget hpickup ""⟩
  refine ⟨trivial, ?_, trivial⟩
  change raises _ _ = false
  decide +kernel

/-- A haul at its pickup cannot be requeued, and one that was requeued cannot be canceled. -/
theorem withdrawal_is_refused :
    (Guarded (step still) (Orderly still) (opened still ⟨0, none⟩) atPickup ∧
      ((stillFleet atPickup).snapshot? 1).map HaulTaskSnapshot.wmsStatus = some .inProgress ∧
      ((stillFleet atPickup).snapshot? 1).map HaulTaskSnapshot.pickupCompleted = some false ∧
      .requeued ∈ allowedWmsTransitions .inProgress ∧
      raises ((FleetOp.haul 1 (.requeue "")).call still) (stillFleet atPickup) = true) ∧
    (Guarded (step still) (Orderly still) (opened still ⟨0, none⟩) requeued ∧
      ((stillFleet requeued).snapshot? 1).map HaulTaskSnapshot.wmsStatus = some .requeued ∧
      ((stillFleet requeued).snapshot? 1).map HaulTaskSnapshot.pickupCompleted = some false ∧
      .canceled ∈ allowedWmsTransitions .requeued ∧
      raises ((FleetOp.haul 1 (.cancel "")).call still) (stillFleet requeued) = true) := by
  constructor
  · refine ⟨⟨trivial, ?_, ?_, ?_, trivial⟩, by decide +kernel⟩
    · change raises _ _ = false
      decide +kernel
    · change raises _ _ = false
      decide +kernel
    · change raises _ _ = false
      decide +kernel
  · refine ⟨⟨trivial, ?_, ?_, trivial⟩, by decide +kernel⟩
    · change raises _ _ = false
      decide +kernel
    · change raises _ _ = false
      decide +kernel

end Runs

end Fleet
