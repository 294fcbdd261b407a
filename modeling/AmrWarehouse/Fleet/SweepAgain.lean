import AmrWarehouse.Fleet.LockTimeouts

/-! A second sweep at the same moment. -/

namespace Fleet

open Library

namespace Datetime

def wholeSeconds (moment : Datetime) : Datetime :=
  { moment with micros := moment.micros / 1000000 * 1000000 }

def fraction (moment : Datetime) : ℚ :=
  roundDouble (((moment.micros % 1000000 : ℤ) : ℚ) / 1000000)

lemma fraction_nonneg (moment : Datetime) : 0 ≤ moment.fraction := by
  have hmod : 0 ≤ moment.micros % 1000000 := Int.emod_nonneg _ (by decide)
  apply roundDouble_nonneg
  positivity

lemma totalSeconds_wholeSeconds (moment : Datetime) :
    totalSeconds moment moment.wholeSeconds = .ok moment.fraction := by
  have hsplit : moment.micros - moment.micros / 1000000 * 1000000 = moment.micros % 1000000 := by
    omega
  rw [totalSeconds, wholeSeconds, if_pos rfl, fraction, hsplit]

end Datetime

/-- The text of the moment is not empty, and reads back as the moment in whole seconds. -/
structure Environment.ReadsBack (env : Environment) (moment : Datetime) : Prop where
  nonempty : env.utcStamp moment ≠ ""
  parsed : env.parseTimestamp (env.utcStamp moment) = .ok moment.wholeSeconds

namespace ResourceSlot

variable {env : Environment} {now : Datetime} {limit : Floating} {slot : ResourceSlot}

lemma handedOver_nil (h : slot.queue = []) (timestamp : String) :
    slot.handedOver timestamp = ⟨⟨slot.resource.resourceId, none, none, timestamp⟩, []⟩ := by
  rw [handedOver, h]

lemma handedOver_cons {next : String} {rest : List String} (h : slot.queue = next :: rest)
    (timestamp : String) :
    slot.handedOver timestamp =
      ⟨⟨slot.resource.resourceId, some next, some timestamp, timestamp⟩, rest⟩ := by
  rw [handedOver, h]

lemma expired_handedOver_iff (hreads : env.ReadsBack now) :
    (slot.handedOver (env.utcStamp now)).resource.Expired env now limit ↔
      slot.queue ≠ [] ∧ ¬ (Floating.finite now.fraction).le limit = true := by
  cases hqueue : slot.queue with
  | nil =>
    rw [handedOver_nil hqueue]
    simp [ResourceRecord.Expired]
  | cons next rest =>
    rw [handedOver_cons hqueue, ResourceRecord.Expired, ResourceRecord.age, Option.bind_some,
      hreads.parsed]
    have hage : (Except.ok now.wholeSeconds >>= totalSeconds now).toOption.map
        (fun ageSec => max ageSec 0) = some now.fraction := by
      change ((totalSeconds now now.wholeSeconds).toOption.map _) = _
      rw [Datetime.totalSeconds_wholeSeconds]
      exact congrArg some (max_eq_left now.fraction_nonneg)
    rw [hage, Floating.not_le_iff]
    simp

lemma expired_swept_iff (hreads : env.ReadsBack now) :
    (slot.swept env now limit).resource.Expired env now limit ↔
      slot.resource.Expired env now limit ∧ slot.queue ≠ [] ∧
        ¬ (Floating.finite now.fraction).le limit = true := by
  rw [swept]
  split_ifs with hexpired
  · rw [expired_handedOver_iff hreads]
    exact (and_iff_right hexpired).symm
  · exact ⟨fun h => absurd h hexpired, fun h => absurd h.1 hexpired⟩

lemma wellStamped_swept (hreads : env.ReadsBack now) (hnow : now.aware = true)
    (h : slot.resource.WellStamped env) : (slot.swept env now limit).resource.WellStamped env := by
  rw [swept]
  split_ifs
  · intro text htext
    cases hqueue : slot.queue with
    | nil =>
      rw [handedOver_nil hqueue] at htext
      cases htext
    | cons next rest =>
      rw [handedOver_cons hqueue] at htext
      rw [← Option.some.inj htext]
      exact ⟨_, hreads.parsed, hnow⟩
  · exact h

end ResourceSlot

namespace ResourceLockManager

/-- After a sweep nothing is held for too long, and a second sweep does nothing. -/
def SettlesAt (env : Environment) (now : Datetime) (limit : Floating)
    (manager : ResourceLockManager) : Prop :=
  Ends (sweepTimeouts env now (some limit)) manager
    (fun _ after =>
      (∀ r slot, after.slotOf r = some slot → ¬ slot.resource.Expired env now limit) ∧
        (sweepTimeouts env now (some limit)).run after = .ok [] after)
    (fun _ => False)

variable {env : Environment} {manager : ResourceLockManager} {known : String → Bool}
variable {locks : String → FifoLock String} {now : Datetime} {limit : Floating}

lemma sweepLimit_some (h : (Floating.finite 0).le limit = true) :
    manager.sweepLimit (some limit) = limit := by
  have hnot : ¬ limit.lt (.finite 0) = true := fun hlt =>
    (Floating.not_le_iff limit 0).mpr (Or.inr hlt) h
  rw [sweepLimit, Floating.max, if_neg hnot]

lemma sweepTimeouts_of_fresh (h : manager.Shows known locks) (hstamped : manager.WellStamped env)
    (hnow : now.aware = true) (hconverts : env.Converts now) (timeoutSec : Option Floating)
    (hfresh : ∀ r slot, manager.slotOf r = some slot →
      ¬ slot.resource.Expired env now (manager.sweepLimit timeoutSec)) :
    Ends (sweepTimeouts env now timeoutSec) manager
      (fun released t => released = [] ∧ t = manager) (fun _ => False) := by
  obtain ⟨utc, hutc⟩ := hconverts
  rw [sweepTimeouts, ends_bind, ends_get, ends_bind, hutc, ends_orRaise_ok, ends_bind]
  refine (ends_mapM (fun _ results t => results.flatten = [] ∧ t = manager) ⟨rfl, rfl⟩ ?_).mono
    (fun _ _ ht => ht) (fun _ he => he)
  rintro seen results resource rest t hall ⟨hresults, rfl⟩
  have hmem : resource ∈ t.resources.sortedValues := by rw [hall]; simp
  obtain ⟨r, hresource⟩ := (Dict.mem_sortedValues _ _).mp hmem
  obtain ⟨slot, hslot, rfl⟩ := Shows.slot_of_resource h hresource
  refine (sweepResource_of_fresh hslot (h.named r _ hresource) (hstamped r slot hslot) hnow
    (hfresh r slot hslot)).mono ?_ (fun _ he => he)
  rintro _ _ ⟨rfl, rfl⟩
  exact ⟨by rw [List.flatten_append, hresults]; rfl, rfl⟩

lemma settlesAt_iff (h : manager.Shows known locks) (hstamped : manager.WellStamped env)
    (hnow : now.aware = true) (hreads : env.Converts now → env.ReadsBack now)
    (hlimit : (Floating.finite 0).le limit = true) :
    manager.SettlesAt env now limit ↔
      env.Converts now ∧ ((Floating.finite now.fraction).le limit = true ∨
        ∀ r slot, manager.slotOf r = some slot → slot.resource.Expired env now limit →
          slot.queue = []) := by
  by_cases hconverts : env.Converts now
  swap
  · obtain ⟨e, he⟩ := Environment.not_converts hconverts
    refine iff_of_false (fun hsettles => ?_) (fun hboth => hconverts hboth.1)
    exact hsettles.of_error (run_sweepTimeouts_unconverted he manager (some limit))
  rw [and_iff_right hconverts]
  replace hreads := hreads hconverts
  have hends := ends_sweepTimeouts_exact h hreads.nonempty hstamped hnow hconverts (some limit)
  rw [sweepLimit_some hlimit] at hends
  obtain ⟨released, after, hrun, -, hsweeps⟩ := hends.run_ok
  constructor
  · intro hsettles
    have hfresh := (hsettles.of_ok hrun).1
    by_contra hneither
    push Not at hneither
    obtain ⟨hold, r, slot, hslot, hexpired, hqueue⟩ := hneither
    refine hfresh r (slot.swept env now limit) ?_ ?_
    · rw [hsweeps.slots r, hslot, Option.map_some]
    · exact (ResourceSlot.expired_swept_iff hreads).mpr ⟨hexpired, hqueue, by simpa using hold⟩
  · intro hholds
    have hfresh : ∀ r slot, after.slotOf r = some slot →
        ¬ slot.resource.Expired env now limit := by
      intro r _ hswept hexpired
      rw [hsweeps.slots r] at hswept
      obtain ⟨slot, hslot, rfl⟩ := Option.map_eq_some_iff.mp hswept
      obtain ⟨hexpired, hqueue, hold⟩ := (ResourceSlot.expired_swept_iff hreads).mp hexpired
      rcases hholds with hyoung | hempty
      · exact hold hyoung
      · exact hqueue (hempty r slot hslot hexpired)
    have hstamped' : after.WellStamped env := by
      intro r _ hswept
      rw [hsweeps.slots r] at hswept
      obtain ⟨slot, hslot, rfl⟩ := Option.map_eq_some_iff.mp hswept
      exact ResourceSlot.wellStamped_swept hreads hnow (hstamped r slot hslot)
    obtain ⟨locks', hlocks', -⟩ := (ends_sweepTimeouts h now (some limit)).of_ok hrun
    have hagain := sweepTimeouts_of_fresh hlocks' hstamped' hnow hconverts (some limit)
      (by rwa [sweepLimit_some hlimit])
    obtain ⟨_, _, hrunAgain, rfl, rfl⟩ := hagain.run_ok
    exact ends_of_ok hrun ⟨hfresh, hrunAgain⟩

end ResourceLockManager

open ResourceLockManager

/-- A sweep at a moment that has a UTC datetime settles the locks unless a robot that waited is
given one that the fraction of the present second already makes too old. -/
theorem sweep_settles_iff (env : Environment) (resourceIds : List String)
    (ownershipTimeoutSec : Floating) (ticks : ℕ) (ops : List ResourceOp) (now : Datetime)
    (hnow : now.aware = true) (hreads : env.Converts now → env.ReadsBack now) (limit : Floating)
    (hlimit : (Floating.finite 0).le limit = true)
    (hstamped : (runAll (ResourceOp.step env) (init env resourceIds ownershipTimeoutSec ticks)
      ops).WellStamped env) :
    let manager := runAll (ResourceOp.step env) (init env resourceIds ownershipTimeoutSec ticks) ops
    manager.SettlesAt env now limit ↔
      env.Converts now ∧ ((Floating.finite now.fraction).le limit = true ∨
        ∀ r slot, manager.slotOf r = some slot → slot.resource.Expired env now limit →
          slot.queue = []) := by
  intro manager
  obtain ⟨locks, hlocks⟩ := run_shows
    ⟨_, shows_init env resourceIds ownershipTimeoutSec ticks⟩ ops
  exact settlesAt_iff hlocks hstamped hnow hreads hlimit

lemma ticking_readsBack : ticking.ReadsBack sweepMoment := ⟨by decide +kernel, by decide +kernel⟩

theorem sweep_settles_after_default :
    let manager := runAll (ResourceOp.step ticking)
      (init ticking defaultDemoResources defaultResourceTimeoutSec 0) aisleQueue
    manager.SettlesAt ticking sweepMoment defaultResourceTimeoutSec :=
  (sweep_settles_iff ticking defaultDemoResources defaultResourceTimeoutSec 0 aisleQueue
    sweepMoment rfl (fun _ => ticking_readsBack) defaultResourceTimeoutSec (by decide +kernel)
    (wellStamped_ticking _)).mpr ⟨⟨sweepMoment, rfl⟩, Or.inl (by decide +kernel)⟩

/-- The robot that was just granted the aisle would be made to release it. -/
theorem sweep_evicts_successor :
    let manager := runAll (ResourceOp.step ticking)
      (init ticking defaultDemoResources defaultResourceTimeoutSec 0) aisleQueue
    ¬ manager.SettlesAt ticking sweepMoment (.finite 0) := by
  intro manager hsettles
  obtain ⟨locks, hlocks⟩ := run_shows
    ⟨_, shows_init ticking defaultDemoResources defaultResourceTimeoutSec 0⟩ aisleQueue
  obtain ⟨-, hyoung | hempty⟩ := (settlesAt_iff hlocks (wellStamped_ticking manager) rfl
    (fun _ => ticking_readsBack) (by decide +kernel)).mp hsettles
  · exact absurd hyoung (by decide +kernel)
  · have hslot : (manager.slotOf "narrow_aisle_1").map (fun slot =>
        (decide (slot.resource.Expired ticking sweepMoment (.finite 0)), slot.queue)) =
          some (true, ["robot_02"]) := by decide +kernel
    obtain ⟨slot, hslot, hvalues⟩ := Option.map_eq_some_iff.mp hslot
    rw [Prod.mk.injEq, decide_eq_true_eq] at hvalues
    have hqueue := hempty _ slot hslot hvalues.1
    rw [hvalues.2] at hqueue
    cases hqueue

end Fleet
