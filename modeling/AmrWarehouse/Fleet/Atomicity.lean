import AmrWarehouse.Fleet.FleetRuns

/-! What a haul operation that raises leaves behind. -/

namespace Fleet

open Library

structure Unchanged (taskId : ℤ) (before after : FleetState) : Prop where
  snapshot_eq : after.snapshot? taskId = before.snapshot? taskId
  robots_eq : after.registry.robots = before.registry.robots
  assignments_eq : after.dispatcher.assignments = before.dispatcher.assignments

section Moves

variable {env : Environment} {snapshot snapshot' : HaulTaskSnapshot} {board board' : Board}
  {op : HaulOp} {raised : Bool}

lemma Closing.not_tears {wmsStatus : WmsTaskStatus} {phase : HaulExecutionPhase}
    {status : AssignmentStatus} (h : Closing snapshot op wmsStatus phase status)
    (hworking : snapshot.wmsStatus ∈ [.assigned, .inProgress]) : ¬ op.Tears env snapshot board := by
  intro htears
  cases h with
  | fail _ =>
    have hopen := htears.1
    cases hs : snapshot.wmsStatus <;> simp_all
  | requeue _ _ _ =>
    have hopen := htears.1
    cases hs : snapshot.wmsStatus <;> simp_all
  | _ => exact htears

lemma HaulMove.kept_iff (h : HaulMove env snapshot board op raised snapshot' board') :
    (raised = true → snapshot' = snapshot ∧ board' = board) ↔ ¬ op.Tears env snapshot board := by
  cases h with
  | refused htears _ => simp [htears]
  | rephased _ htears _ _ _ hphase =>
    refine ⟨fun hkept => ?_, fun hnot => absurd htears hnot⟩
    exact absurd (congrArg HaulTaskSnapshot.executionPhase (hkept rfl).1) hphase
  | halfStarted _ hwms hphase _ =>
    refine ⟨fun hkept => ?_, fun hnot => absurd ⟨hwms, hphase⟩ hnot⟩
    have hstatus := congrArg HaulTaskSnapshot.wmsStatus (hkept rfl).1
    rw [hwms] at hstatus
    simp at hstatus
  | assigned _ hgives hconverts _ =>
    refine ⟨fun _ htears => htears.not_accepts ⟨hgives, hconverts⟩, fun _ hraised => ?_⟩
    simp at hraised
  | orphaned _ hgives hconverts horphans =>
    refine ⟨fun hkept => ?_, fun hnot => absurd (.inr ⟨hgives, hconverts⟩) hnot⟩
    obtain ⟨_, htakes⟩ := horphans.robot
    exact absurd (congrArg Board.robots (hkept rfl).2) htakes.ne
  | started _ _ hphase _ _ _ =>
    refine ⟨fun _ htears => htears.2 hphase, fun _ hraised => ?_⟩
    simp at hraised
  | arrived _ _ _ hleg _ _ =>
    refine ⟨fun _ htears => ?_, fun _ hraised => ?_⟩
    · cases hleg <;> exact htears
    · simp at hraised
  | loaded _ _ _ =>
    refine ⟨fun _ htears => htears, fun _ hraised => ?_⟩
    simp at hraised
  | closed _ hworking hclosing _ _ _ =>
    refine ⟨fun _ => hclosing.not_tears hworking, fun _ hraised => ?_⟩
    simp at hraised
  | dropped _ _ _ =>
    refine ⟨fun _ htears => htears, fun _ hraised => ?_⟩
    simp at hraised
  | refailed hterminal _ _ =>
    refine ⟨fun _ htears => ?_, fun _ hraised => ?_⟩
    · exact absurd hterminal (not_terminal_of_open htears.1)
    · simp at hraised

end Moves

section Runs

variable {env : Environment} {start fleet : FleetState} {taskId : ℤ} {snapshot : HaulTaskSnapshot}

/-- In every reachable fleet, an operation that raises changes nothing exactly if it does not
tear: `assign` of a requeued haul that no robot can take, `assign` with a robot at hand but a moment
that has no UTC datetime, `start` of a haul that a failed call has moved out of its first phase,
`fail` and `requeue` of a haul that no robot works for. -/
theorem raised_call_unchanged_iff (hstart : Started env start)
    (hreach : Reachable (step env) Neutral start fleet)
    (hget : fleet.snapshot? taskId = some snapshot) (op : HaulOp) :
    (raises ((FleetOp.haul taskId op).call env) fleet = true →
        Unchanged taskId fleet (step env fleet (.haul taskId op))) ↔
      ¬ op.Tears env snapshot fleet.dispatcher.board := by
  have hgood := hstart.reachable_good hreach
  obtain ⟨snapshot', hmove, hsnapshots⟩ := step_haul hgood hget op
  have hself : (step env fleet (.haul taskId op)).snapshot? taskId = some snapshot' := by
    rw [hsnapshots, Function.update_self]
  rw [← hmove.kept_iff]
  have hiff : Unchanged taskId fleet (step env fleet (.haul taskId op)) ↔
      snapshot' = snapshot ∧
        (step env fleet (.haul taskId op)).dispatcher.board = fleet.dispatcher.board := by
    constructor
    · intro hsame
      have hs := hsame.snapshot_eq
      rw [hself, hget] at hs
      refine ⟨Option.some.inj hs, ?_⟩
      simp only [FleetDispatcher.board, Board.mk.injEq]
      exact ⟨hsame.robots_eq, hsame.assignments_eq⟩
    · rintro ⟨hs, hb⟩
      simp only [FleetDispatcher.board, Board.mk.injEq] at hb
      exact ⟨by rw [hself, hget, hs], hb.1, hb.2⟩
  rw [hiff]

theorem raised_call_unchanged_iff_start :
    (raises ((FleetOp.haul 1 .start).call still) (stillFleet [newHaul 1]) = true →
        Unchanged 1 (stillFleet [newHaul 1])
          (step still (stillFleet [newHaul 1]) (.haul 1 .start))) ↔
      ¬ HaulOp.start.Tears still
        { taskId := 1
          pickupStation := "shelf"
          dropoffStation := "dock"
          priority := "normal"
          wmsStatus := .pending
          assignmentStatus := none
          executionPhase := .idle
          robotId := none
          pickupCompleted := false
          reason := none }
        (stillFleet [newHaul 1]).dispatcher.board :=
  raised_call_unchanged_iff seeded_still.toStarted ⟨[newHaul 1], ⟨trivial, trivial⟩, rfl⟩ rfl .start

theorem fail_of_pending_haul_tears :
    raises ((FleetOp.haul 1 (.fail "lost")).call still) (stillFleet [newHaul 1]) = true ∧
      ¬ Unchanged 1 (stillFleet [newHaul 1])
        (step still (stillFleet [newHaul 1]) (.haul 1 (.fail "lost"))) := by
  refine ⟨by decide +kernel, fun hsame => ?_⟩
  have hphase := congrArg (Option.map HaulTaskSnapshot.executionPhase) hsame.snapshot_eq
  revert hphase
  decide +kernel

end Runs

end Fleet
