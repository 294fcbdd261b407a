import AmrWarehouse.Fleet.AllOrNothing

/-! What a sweep of the lock manager releases, and to whom. -/

namespace Fleet

open Library

namespace ResourceRecord

/-- `ownership_age_sec`, and none where it raises. -/
def age (env : Environment) (now : Datetime) (resource : ResourceRecord) : Option ℚ :=
  resource.acquiredAt.bind fun text =>
    ((env.parseTimestamp text >>= totalSeconds now).toOption).map fun ageSec => max ageSec 0

/-- Owned for longer than the limit. No age is at most NaN. -/
def Expired (env : Environment) (now : Datetime) (limit : Floating) (resource : ResourceRecord) :
    Prop :=
  resource.ownerRobotId ≠ none ∧
    ∃ ageSec ∈ resource.age env now, limit = .nan ∨ limit.lt (.finite ageSec) = true

instance (env : Environment) (now : Datetime) (limit : Floating) (resource : ResourceRecord) :
    Decidable (resource.Expired env now limit) :=
  inferInstanceAs (Decidable (_ ∧ _))

/-- A time of acquisition, where there is one, can be read and has a zone. -/
def WellStamped (env : Environment) (resource : ResourceRecord) : Prop :=
  ∀ text, resource.acquiredAt = some text →
    ∃ acquired, env.parseTimestamp text = .ok acquired ∧ acquired.aware = true

end ResourceRecord

namespace ResourceSlot

def swept (env : Environment) (now : Datetime) (limit : Floating) (slot : ResourceSlot) :
    ResourceSlot :=
  if slot.resource.Expired env now limit then slot.handedOver (env.utcStamp now) else slot

def sweepEvents (env : Environment) (now : Datetime) (limit : Floating) (slot : ResourceSlot) :
    List ResourceEvent :=
  if slot.resource.Expired env now limit then
    slot.releaseEvents (env.utcStamp now) ++
      [⟨env.utcStamp now, .resourceTimeout, slot.resource.resourceId, slot.resource.ownerRobotId,
        some s!"ownership exceeded {limit.fixedPoint 1}s"⟩]
  else []

end ResourceSlot

lemma Floating.not_le_iff (limit : Floating) (value : ℚ) :
    ¬ (Floating.finite value).le limit = true ↔
      limit = .nan ∨ limit.lt (.finite value) = true := by
  cases limit with
  | finite bound =>
    simp only [Floating.le, Floating.lt_finite, Bool.or_eq_true, decide_eq_true_eq, reduceCtorEq,
      false_or, Floating.finite.injEq, ne_eq, not_false_eq_true, and_true, ← le_iff_lt_or_eq,
      not_le]
  | infinite negative => cases negative <;> simp [Floating.le, Floating.lt]
  | nan => simp [Floating.le, Floating.lt]

namespace ResourceLockManager

def WellStamped (env : Environment) (manager : ResourceLockManager) : Prop :=
  ∀ r slot, manager.slotOf r = some slot → slot.resource.WellStamped env

def sweepLimit (manager : ResourceLockManager) (timeoutSec : Option Floating) : Floating :=
  match timeoutSec with
  | none => manager.ownershipTimeoutSec
  | some sec => sec.max (.finite 0)

def expiredIds (env : Environment) (manager : ResourceLockManager) (now : Datetime)
    (limit : Floating) : List String :=
  manager.resources.sortedKeys.filter fun r =>
    (manager.slotOf r).any fun slot => slot.resource.Expired env now limit

variable {env : Environment} {manager manager' : ResourceLockManager}
variable {known : String → Bool} {locks : String → FifoLock String} {r ts : String}
variable {slot : ResourceSlot}
variable {now : Datetime} {limit : Floating}

section Sweep

lemma ends_age (h : manager.slotOf r = some slot) (hstamped : slot.resource.WellStamped env)
    (hnow : now.aware = true) :
    Ends (ownershipAgeSec env r now) manager
      (fun ageSec t => ageSec = slot.resource.age env now ∧ t = manager) (fun _ => False) := by
  rw [ownershipAgeSec, ends_bind]
  refine (getResource_of_slot h).mono ?_ (fun _ he => he)
  rintro _ _ ⟨rfl, rfl⟩
  rw [ResourceRecord.age]
  cases htext : slot.resource.acquiredAt with
  | none => exact ⟨rfl, rfl⟩
  | some text =>
    obtain ⟨acquired, hparse, haware⟩ := hstamped text htext
    have hseconds : totalSeconds now acquired =
        .ok (roundDouble ((now.micros - acquired.micros : ℤ) / 1000000)) := by
      rw [totalSeconds, if_pos (hnow.trans haware.symm)]
    dsimp only
    rw [hparse, ends_bind, ends_orRaise_ok, hseconds, ends_bind, ends_orRaise_ok, ends_pure]
    refine ⟨?_, rfl⟩
    rw [Option.bind_some, hparse]
    simp only [bind, Except.bind, hseconds, Except.toOption, Option.map_some]

lemma sweepResource_of_fresh (h : manager.slotOf r = some slot)
    (hid : slot.resource.resourceId = r) (hstamped : slot.resource.WellStamped env)
    (hnow : now.aware = true) (hfresh : ¬ slot.resource.Expired env now limit) :
    Ends (sweepResource env now limit ts slot.resource) manager
      (fun ids t => ids = [] ∧ t = manager) (fun _ => False) := by
  rw [sweepResource]
  cases howner : slot.resource.ownerRobotId with
  | none => exact ⟨rfl, rfl⟩
  | some owner =>
    cases hacquired : slot.resource.acquiredAt with
    | none => exact ⟨rfl, rfl⟩
    | some text =>
      rw [hid, ends_bind]
      refine (ends_age h hstamped hnow).mono ?_ (fun _ he => he)
      rintro age _ ⟨rfl, rfl⟩
      cases hage : slot.resource.age env now with
      | none => exact ⟨rfl, rfl⟩
      | some ageSec =>
        have hyoung : (Floating.finite ageSec).le limit = true := by
          by_contra hlate
          exact hfresh ⟨by simp [howner], ageSec, hage, (Floating.not_le_iff limit ageSec).mp hlate⟩
        dsimp only
        rw [if_pos hyoung]
        exact ⟨rfl, rfl⟩

lemma sweepResource_of_expired (hts : ts ≠ "") (h : manager.slotOf r = some slot)
    (hid : slot.resource.resourceId = r) (hstamped : slot.resource.WellStamped env)
    (hnow : now.aware = true) (hexpired : slot.resource.Expired env now limit) :
    Ends (sweepResource env now limit ts slot.resource) manager
      (fun ids t => ids = [r] ∧ Puts manager t r (slot.handedOver ts) (slot.releaseEvents ts ++
        [⟨ts, .resourceTimeout, r, slot.resource.ownerRobotId,
          some s!"ownership exceeded {limit.fixedPoint 1}s"⟩]))
      (fun _ => False) := by
  obtain ⟨howned, ageSec, hage, hlate⟩ := hexpired
  obtain ⟨owner, howner⟩ := Option.ne_none_iff_exists'.mp howned
  rw [Option.mem_def] at hage
  obtain ⟨text, hacquired⟩ : ∃ text, slot.resource.acquiredAt = some text := by
    obtain ⟨text, htext, -⟩ := Option.bind_eq_some_iff.mp hage
    exact ⟨text, htext⟩
  rw [sweepResource, howner, hacquired]
  dsimp only
  rw [hid, ends_bind]
  refine (ends_age h hstamped hnow).mono ?_ (fun _ he => he)
  rintro age _ ⟨rfl, rfl⟩
  rw [hage]
  dsimp only
  rw [if_neg ((Floating.not_le_iff limit ageSec).mpr hlate), ends_bind]
  refine (puts_release (timed_of_given hts) h hid howner).mono ?_ (fun _ he => he)
  rintro _ t ⟨stamp, hstamp, ht⟩
  obtain rfl := hstamp.eq_given hts
  rw [ends_bind]
  refine (puts_emit hts ht.here _ _ _).mono ?_ (fun _ he => he)
  intro _ u hu
  exact ⟨rfl, ht.trans hu⟩

lemma puts_sweepResource (hts : env.utcStamp now ≠ "") (h : manager.slotOf r = some slot)
    (hid : slot.resource.resourceId = r) (hstamped : slot.resource.WellStamped env)
    (hnow : now.aware = true) :
    Ends (sweepResource env now limit (env.utcStamp now) slot.resource) manager
      (fun ids t => ids = (if slot.resource.Expired env now limit then [r] else []) ∧
        Puts manager t r (slot.swept env now limit) (slot.sweepEvents env now limit))
      (fun _ => False) := by
  by_cases hexpired : slot.resource.Expired env now limit
  · simp only [ResourceSlot.swept, ResourceSlot.sweepEvents, if_pos hexpired, hid]
    exact sweepResource_of_expired hts h hid hstamped hnow hexpired
  · simp only [ResourceSlot.swept, ResourceSlot.sweepEvents, if_neg hexpired]
    refine (sweepResource_of_fresh h hid hstamped hnow hexpired).mono ?_ (fun _ he => he)
    rintro _ _ ⟨rfl, rfl⟩
    exact ⟨rfl, Puts.refl h⟩

/-- Every slot is swept, in the order of the ids. -/
structure Sweeps (env : Environment) (now : Datetime) (limit : Floating)
    (manager manager' : ResourceLockManager) : Prop where
  slots : ∀ r, manager'.slotOf r = (manager.slotOf r).map (ResourceSlot.swept env now limit)
  logged : manager'.eventSink = manager.eventSink ++ manager.resources.sortedKeys.flatMap fun r =>
    (manager.slotOf r).toList.flatMap (ResourceSlot.sweepEvents env now limit)

lemma Shows.slot_of_resource (h : manager.Shows known locks) {resource : ResourceRecord}
    (hresource : manager.resources.get? r = some resource) :
    ∃ slot, manager.slotOf r = some slot ∧ slot.resource = resource := by
  have hqueue : (manager.waitQueues.get? r).isSome := by
    rw [h.queued r, ← h.knows r, hresource, Option.isSome_some]
  obtain ⟨queue, hqueue⟩ := Option.isSome_iff_exists.mp hqueue
  exact ⟨_, slotOf_eq hresource hqueue, rfl⟩

lemma ends_sweepTimeouts_exact (h : manager.Shows known locks) (hts : env.utcStamp now ≠ "")
    (hstamped : manager.WellStamped env) (hnow : now.aware = true) (hconverts : env.Converts now)
    (timeoutSec : Option Floating) :
    Ends (sweepTimeouts env now timeoutSec) manager
      (fun released t => released = manager.expiredIds env now (manager.sweepLimit timeoutSec) ∧
        Sweeps env now (manager.sweepLimit timeoutSec) manager t)
      (fun _ => False) := by
  have hids := Dict.map_sortedValues h.named
  have hdistinct := nodup_sortedResources h
  obtain ⟨utc, hutc⟩ := hconverts
  rw [Environment.utc_of_aware hnow hutc] at hutc
  rw [sweepTimeouts, ends_bind, ends_get, ends_bind, hutc, ends_orRaise_ok, ends_bind]
  change Ends (List.mapM (sweepResource env now (manager.sweepLimit timeoutSec) _) _) _ _ _
  generalize manager.sweepLimit timeoutSec = limit
  refine (ends_mapM (fun seen results t =>
    results.flatten = (seen.map ResourceRecord.resourceId).filter
      (fun r => (manager.slotOf r).any fun slot => slot.resource.Expired env now limit) ∧
    t.eventSink = manager.eventSink ++ (seen.map ResourceRecord.resourceId).flatMap (fun r =>
      (manager.slotOf r).toList.flatMap (ResourceSlot.sweepEvents env now limit)) ∧
    ∀ r, t.slotOf r = if r ∈ seen.map ResourceRecord.resourceId
      then (manager.slotOf r).map (ResourceSlot.swept env now limit) else manager.slotOf r)
    ⟨rfl, by simp, by simp⟩ ?_).mono ?_ (fun _ he => he)
  · rintro seen results resource rest t hall ⟨hresults, hlogged, hslots⟩
    have hmem : resource ∈ manager.resources.sortedValues := by rw [hall]; simp
    obtain ⟨r, hresource⟩ := (Dict.mem_sortedValues _ _).mp hmem
    have hid := h.named r resource hresource
    have hnew : r ∉ seen.map ResourceRecord.resourceId := by
      rw [hall, List.map_append, List.map_cons, List.nodup_append, hid] at hdistinct
      exact fun hseen => hdistinct.2.2 _ hseen _ List.mem_cons_self rfl
    obtain ⟨slot, hslot, rfl⟩ := Shows.slot_of_resource h hresource
    have hthere : t.slotOf r = some slot := by rw [hslots r, if_neg hnew, hslot]
    refine (puts_sweepResource hts hthere hid (hstamped r slot hslot) hnow).mono ?_
      (fun _ he => he)
    rintro ids u ⟨rfl, hu⟩
    rw [List.map_append, List.map_singleton, hid]
    refine ⟨?_, ?_, ?_⟩
    · rw [List.flatten_append, hresults, List.filter_append]
      congr 1
      simp [hslot, List.filter_singleton]
    · rw [hu.logged, hlogged, List.flatMap_append, List.append_assoc]
      congr 2
      simp [hslot]
    · intro j
      by_cases hj : j = r
      · subst hj
        rw [hu.here, if_pos (by simp), hslot, Option.map_some]
      · rw [hu.elsewhere j hj, hslots j]
        simp [hj]
  · rintro results t ⟨hresults, hlogged, hslots⟩
    rw [hids] at hresults hlogged hslots
    rw [ends_pure]
    refine ⟨hresults, ⟨fun r => ?_, hlogged⟩⟩
    rw [hslots r]
    split_ifs with hr
    · rfl
    · rw [Dict.mem_sortedKeys, Bool.not_eq_true, Option.isSome_eq_false_iff,
        Option.isNone_iff_eq_none] at hr
      rw [slotOf, hr]
      rfl

lemma run_sweepTimeouts_unconverted {e : FleetError} (he : env.astimezone now = .error e)
    (manager : ResourceLockManager) (timeoutSec : Option Floating) :
    (sweepTimeouts env now timeoutSec).run manager = .error e manager := by
  simp only [sweepTimeouts, EStateM.run_bind, EStateM.run_get, he, run_orRaise_error]

end Sweep

end ResourceLockManager

open ResourceLockManager

/-- A sweep releases the resources held for too long, and hands each to the first that waits. At a
moment that has no UTC datetime it raises before it has done anything. -/
theorem sweepTimeouts_exact (env : Environment) (hstamps : ∀ moment, env.utcIsoformat moment ≠ "")
    (resourceIds : List String) (ownershipTimeoutSec : Floating) (ticks : ℕ) (ops : List ResourceOp)
    (now : Datetime) (hnow : now.aware = true) (timeoutSec : Option Floating)
    (hstamped : (runAll (ResourceOp.step env) (init env resourceIds ownershipTimeoutSec ticks)
      ops).WellStamped env) :
    let manager := runAll (ResourceOp.step env) (init env resourceIds ownershipTimeoutSec ticks) ops
    let limit := manager.sweepLimit timeoutSec
    (env.Converts now → ∃ after, (sweepTimeouts env now timeoutSec).run manager =
        .ok (manager.expiredIds env now limit) after ∧
      Sweeps env now limit manager after) ∧
    ∀ e, env.astimezone now = .error e →
      (sweepTimeouts env now timeoutSec).run manager = .error e manager := by
  intro manager limit
  constructor
  · intro hconverts
    have hfresh := shows_init env resourceIds ownershipTimeoutSec ticks
    obtain ⟨locks, hlocks⟩ := run_shows ⟨_, hfresh⟩ ops
    have hts := Environment.utcStamp_ne_empty hstamps now
    obtain ⟨released, after, hrun, rfl, hsweeps⟩ :=
      (ends_sweepTimeouts_exact hlocks hts hstamped hnow hconverts timeoutSec).run_ok
    exact ⟨after, hrun, hsweeps⟩
  · exact fun _ he => run_sweepTimeouts_unconverted he manager timeoutSec

def sweepMoment : Datetime := ⟨true, 200500000⟩

def ticking : Environment :=
  { still with
    utcIsoformat := fun moment =>
      if moment = sweepMoment then "1970-01-01T00:03:20+00:00" else "1970-01-01T00:00:00+00:00"
    fromisoformat := fun text =>
      some ⟨true, if text = "1970-01-01T00:03:20+00:00" then 200000000 else 0⟩ }

def aisleQueue : List ResourceOp :=
  [.acquire "narrow_aisle_1" "robot_01" none, .acquire "narrow_aisle_1" "robot_02" none]

lemma ticking_stamps (moment : Datetime) : ticking.utcIsoformat moment ≠ "" := by
  change (if _ then _ else _) ≠ _
  split_ifs <;> decide

lemma wellStamped_ticking (manager : ResourceLockManager) : manager.WellStamped ticking :=
  fun _ _ _ _ _ => ⟨_, rfl, rfl⟩

theorem sweepTimeouts_exact_aisle :
    let manager := runAll (ResourceOp.step ticking)
      (init ticking defaultDemoResources defaultResourceTimeoutSec 0) aisleQueue
    manager.expiredIds ticking sweepMoment (manager.sweepLimit none) = ["narrow_aisle_1"] ∧
      ∃ after, (sweepTimeouts ticking sweepMoment none).run manager =
          .ok (manager.expiredIds ticking sweepMoment (manager.sweepLimit none)) after ∧
        Sweeps ticking sweepMoment (manager.sweepLimit none) manager after := by
  intro manager
  constructor
  · decide +kernel
  · exact (sweepTimeouts_exact ticking ticking_stamps defaultDemoResources
      defaultResourceTimeoutSec 0 aisleQueue sweepMoment rfl none
      (wellStamped_ticking _)).1 ⟨sweepMoment, rfl⟩

/-- No age is greater than NaN, and yet the owner is made to release. Before the year 1 a sweep
raises. -/
theorem sweep_at_nan_and_before_year_one :
    let manager := runAll (ResourceOp.step ticking)
      (init ticking defaultDemoResources defaultResourceTimeoutSec 0) aisleQueue
    Ends (sweepTimeouts ticking sweepMoment (some .nan)) manager
        (fun released _ => released = ["narrow_aisle_1"]) (fun _ => False) ∧
      (∀ ageSec, (Floating.max .nan (.finite 0)).lt (.finite ageSec) = false) ∧
      raises (sweepTimeouts ticking beforeYearOne none) manager = true := by
  intro manager
  obtain ⟨locks, hlocks⟩ := run_shows
    ⟨_, shows_init ticking defaultDemoResources defaultResourceTimeoutSec 0⟩ aisleQueue
  have hts := Environment.utcStamp_ne_empty ticking_stamps sweepMoment
  have hexpired : manager.expiredIds ticking sweepMoment (manager.sweepLimit (some .nan)) =
      ["narrow_aisle_1"] := by decide +kernel
  have hends := ends_sweepTimeouts_exact hlocks hts (wellStamped_ticking manager) rfl
    ⟨sweepMoment, rfl⟩ (some .nan)
  refine ⟨hends.mono (fun _ _ hreleased => ?_) (fun _ he => he), fun ageSec => rfl, ?_⟩
  · exact hreleased.1.trans hexpired
  · rw [raises, run_sweepTimeouts_unconverted rfl]

end Fleet
