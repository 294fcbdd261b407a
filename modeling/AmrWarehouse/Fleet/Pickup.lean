import AmrWarehouse.Fleet.FleetRuns

/-! What a completed pickup settles for the rest of the run. -/

namespace Fleet

open Library

def Carries (view : FleetView) (taskId : ℤ) (robotId : String) : Prop :=
  ∃ snapshot, view.snapshot? taskId = some snapshot ∧ snapshot.pickupCompleted = true ∧
    snapshot.robotId = some robotId

section Moves

variable {env : Environment}

lemma HaulTaskSnapshot.Coherent.loaded {snapshot : HaulTaskSnapshot} (h : snapshot.Coherent)
    (hpickup : snapshot.pickupCompleted = true) :
    snapshot.robotId.isSome ∧ snapshot.wmsStatus ∈ [.inProgress, .succeeded, .failed] := by
  rw [HaulTaskSnapshot.Coherent] at h
  cases hs : snapshot.wmsStatus <;> simp_all

lemma HaulMove.keepsLoad {snapshot snapshot' : HaulTaskSnapshot} {board board' : Board}
    {op : HaulOp} {raised : Bool} (h : HaulMove env snapshot board op raised snapshot' board')
    (hc : snapshot.Coherent) (hpickup : snapshot.pickupCompleted = true) :
    snapshot'.pickupCompleted = true ∧ snapshot'.robotId = snapshot.robotId := by
  have hwms := (hc.loaded hpickup).2
  cases h with
  | assigned _ hgives _ _ =>
    rcases hgives.1 with hs | ⟨hs, _⟩
    · simp [hs] at hwms
    · simp [hs] at hwms
  | closed _ _ hclosing _ _ _ =>
    refine ⟨hpickup, ?_⟩
    cases hclosing with
    | requeue _ hnone _ =>
      rw [hpickup] at hnone
      simp at hnone
    | _ => simp
  | loaded _ _ _ => exact ⟨rfl, rfl⟩
  | _ => exact ⟨hpickup, rfl⟩

variable {view view' : FleetView} {label : FleetLabel} {taskId : ℤ} {robotId : String}

lemma Carries.move (h : Carries view taskId robotId) (hs : Sound view)
    (hmove : FleetMove env view label view') : Carries view' taskId robotId := by
  obtain ⟨snapshot, hget, hpickup, hrobot⟩ := h
  cases hmove with
  | registry _ _ _ => exact ⟨snapshot, hget, hpickup, hrobot⟩
  | bind _ => exact ⟨snapshot, hget, hpickup, hrobot⟩
  | orphan _ => exact ⟨snapshot, hget, hpickup, hrobot⟩
  | create hnone _ =>
    refine ⟨snapshot, ?_, hpickup, hrobot⟩
    dsimp only
    rw [Function.update_of_ne, hget]
    rintro rfl
    rw [hnone] at hget
    simp at hget
  | @haul other _ _ moving moved _ hmoving hmove =>
    by_cases hne : taskId = other
    · subst hne
      obtain rfl := Option.some.inj (hget.symm.trans hmoving)
      obtain ⟨hpickup', hrobot'⟩ := hmove.keepsLoad (hs.tied hget).coherent hpickup
      exact ⟨moved, by simp, hpickup', hrobot'.trans hrobot⟩
    · exact ⟨snapshot, by simp [hne, hget], hpickup, hrobot⟩

end Moves

structure PastPickup (fleet : FleetState) (taskId : ℤ) (robotId : String)
    (snapshot : HaulTaskSnapshot) : Prop where
  snapshot_eq : fleet.snapshot? taskId = some snapshot
  pickupCompleted_eq : snapshot.pickupCompleted = true
  robotId_eq : snapshot.robotId = some robotId
  not_withdrawn : snapshot.wmsStatus ∉ [.requeued, .canceled]
  assignment : snapshot.wmsStatus ∉ terminalWmsStatuses → ∃ assignment,
    fleet.dispatcher.assignments.get? taskId = some assignment ∧ assignment.isActive ∧
      assignment.robotId = robotId

section Runs

variable {env : Environment} {start fleet : FleetState} {taskId : ℤ} {snapshot : HaulTaskSnapshot}

lemma PastPickup.of_carries {robotId : String} (hs : Sound fleet.view)
    (h : Carries fleet.view taskId robotId) :
    ∃ snapshot, PastPickup fleet taskId robotId snapshot := by
  obtain ⟨snapshot, hget, hpickup, hrobot⟩ := h
  have ht := hs.tied hget
  have hwms := (ht.coherent.loaded hpickup).2
  refine ⟨snapshot, hget, hpickup, hrobot, ?_, ?_⟩
  · cases hstatus : snapshot.wmsStatus <;> simp_all
  · intro hopen
    have hworking : snapshot.wmsStatus ∈ [.assigned, .inProgress] := by
      by_contra hworking
      have hunloaded := ht.coherent.unassigned (mem_open_of_not_mem hworking hopen)
      simp [hunloaded.2.1] at hpickup
    obtain ⟨_, assignment, hrec, hactive, hown, _⟩ := ht.working hworking
    rw [hs.owned hget] at hrec
    exact ⟨assignment, hrec, hactive, Option.some.inj (hown.symm.trans hrobot)⟩

/-- After a pickup the haul keeps its robot and its load through every run of further calls. -/
theorem pickup_irreversible (hstart : Started env start)
    (hreach : Reachable (step env) Neutral start fleet)
    (hget : fleet.snapshot? taskId = some snapshot) (hpickup : snapshot.pickupCompleted = true) :
    ∃ robotId, snapshot.robotId = some robotId ∧ ∀ ops, Guarded (step env) Neutral fleet ops →
      ∃ snapshot', PastPickup (runAll (step env) fleet ops) taskId robotId snapshot' := by
  have hgood := hstart.reachable_good hreach
  have ht := hgood.sound.tied hget
  obtain ⟨robotId, hrobot⟩ := Option.isSome_iff_exists.mp (ht.coherent.loaded hpickup).1
  refine ⟨robotId, hrobot, ?_⟩
  intro ops hops
  have hstep : ∀ s op, Good env s ∧ Carries s.view taskId robotId → Neutral s op →
      Good env (step env s op) ∧ Carries (step env s op).view taskId robotId := by
    rintro s op ⟨hs, hcarries⟩ hn
    refine ⟨(step_goes hs hn).good, ?_⟩
    exact step_invariant (fun view => Carries view taskId robotId) (fun _ _ => True)
      (fun _ _ _ hsound hv hm _ _ => hv.move hsound hm) hs hcarries hn
      (fun _ _ _ _ => trivial) (fun _ _ _ _ => trivial)
  obtain ⟨hlast, hcarries⟩ := hops.invariant
    (fun s => Good env s ∧ Carries s.view taskId robotId) hstep
    ⟨hgood, snapshot, hget, hpickup, hrobot⟩
  exact PastPickup.of_carries hlast.sound hcarries

def toPickup : List FleetOp :=
  [newHaul 1, assignHaul 1, .haul 1 .start, .haul 1 (.completeNavigationToPickup false),
    .haul 1 .completePickup]

theorem pickup_irreversible_to_pickup :
    ∃ snapshot, (stillFleet toPickup).snapshot? 1 = some snapshot ∧
    ∃ robotId, snapshot.robotId = some robotId ∧
      ∀ ops, Guarded (step still) Neutral (stillFleet toPickup) ops →
        ∃ snapshot',
          PastPickup (runAll (step still) (stillFleet toPickup) ops) 1 robotId snapshot' := by
  have hpickup : ((stillFleet toPickup).snapshot? 1).map HaulTaskSnapshot.pickupCompleted =
      some true := by
    decide +kernel
  obtain ⟨snapshot, hget, hcompleted⟩ := Option.map_eq_some_iff.mp hpickup
  refine ⟨snapshot, hget,
    pickup_irreversible seeded_still.toStarted ⟨toPickup, ?_, rfl⟩ hget hcompleted⟩
  simp [toPickup, newHaul, assignHaul, Guarded, Neutral, FleetOp.Neutral]

end Runs

end Fleet
