import AmrWarehouse.Library.Runs
import AmrWarehouse.Fleet.ResourceSlots

/-! The events of the lock manager, folded in order, give its owners and queues back. -/

namespace Fleet

open Library

structure ResourceView where
  owner : Option String
  acquiredAt : Option String
  queue : List String
  deriving DecidableEq

namespace ResourceView

def free : ResourceView := ⟨none, none, []⟩

def apply (view : ResourceView) (event : ResourceEvent) : ResourceView :=
  match event.event with
  | .resourceAcquired =>
    ⟨event.robotId, some event.timestamp, view.queue.filter (some · ≠ event.robotId)⟩
  | .resourceWaiting => { view with queue := view.queue ++ event.robotId.toList }
  | .resourceReleased => { view with owner := none, acquiredAt := none }
  | .resourceTimeout => view

/-- Only a free resource is acquired, and only its owner releases it. -/
def Allows (view : ResourceView) (event : ResourceEvent) : Prop :=
  match event.event with
  | .resourceAcquired => view.owner = none
  | .resourceReleased => view.owner = event.robotId
  | .resourceWaiting => True
  | .resourceTimeout => True

end ResourceView

namespace ResourceEvent

def Says (event : ResourceEvent) (kind : ResourceEventKind) (resourceId robotId : String) : Prop :=
  event.event = kind ∧ event.resourceId = resourceId ∧ event.robotId = some robotId

end ResourceEvent

def replay (resourceId : String) (view : ResourceView) (event : ResourceEvent) : ResourceView :=
  if event.resourceId = resourceId then view.apply event else view

def replayed (log : List ResourceEvent) (resourceId : String) : ResourceView :=
  runAll (replay resourceId) .free log

def Coherent (log : List ResourceEvent) (resourceId : String) : Prop :=
  Guarded (replay resourceId)
    (fun view event => event.resourceId = resourceId → view.Allows event) .free log

section Replay

variable {log events : List ResourceEvent} {r a b : String} {view : ResourceView}

lemma replay_others (h : ∀ event ∈ events, event.resourceId ≠ r) :
    runAll (replay r) view events = view := by
  induction events with
  | nil => rfl
  | cons event events ih =>
    rw [runAll_cons, replay, if_neg (h event List.mem_cons_self)]
    exact ih fun e he => h e (List.mem_cons_of_mem event he)

lemma replay_own (h : ∀ event ∈ events, event.resourceId = r) :
    runAll (replay r) view events = runAll ResourceView.apply view events := by
  induction events generalizing view with
  | nil => rfl
  | cons event events ih =>
    rw [runAll_cons, runAll_cons, replay, if_pos (h event List.mem_cons_self)]
    exact ih fun e he => h e (List.mem_cons_of_mem event he)

lemma guarded_own (h : ∀ event ∈ events, event.resourceId = r)
    (hallows : Guarded ResourceView.apply ResourceView.Allows view events) :
    Guarded (replay r) (fun view event => event.resourceId = r → view.Allows event) view
      events := by
  induction events generalizing view with
  | nil => trivial
  | cons event events ih =>
    refine ⟨fun _ => hallows.1, ?_⟩
    rw [replay, if_pos (h event List.mem_cons_self)]
    exact ih (fun e he => h e (List.mem_cons_of_mem event he)) hallows.2

lemma owner_of_acquired {event : ResourceEvent} (h : event.Says .resourceAcquired r a) :
    (replay r view event).owner = some a := by
  obtain ⟨hkind, hr, ha⟩ := h
  rw [replay, if_pos hr, ResourceView.apply, hkind]
  exact ha

lemma owner_until_released {event : ResourceEvent} (howner : view.owner = some a)
    (hallows : event.resourceId = r → view.Allows event)
    (hkeeps : ¬ event.Says .resourceReleased r a) : (replay r view event).owner = some a := by
  rw [replay]
  split_ifs with hr
  · have hallowed := hallows hr
    rw [ResourceView.Allows] at hallowed
    rw [ResourceView.apply]
    cases hkind : event.event with
    | resourceAcquired =>
      rw [hkind] at hallowed
      simp [hallowed] at howner
    | resourceReleased =>
      rw [hkind] at hallowed
      exact absurd ⟨hkind, hr, hallowed.symm.trans howner⟩ hkeeps
    | resourceWaiting => exact howner
    | resourceTimeout => exact howner
  · exact howner

lemma Coherent.released_between {before between after : List ResourceEvent}
    {acquired again : ResourceEvent}
    (h : Coherent (before ++ acquired :: between ++ again :: after) r)
    (hacquired : acquired.Says .resourceAcquired r a)
    (hagain : again.Says .resourceAcquired r b) :
    ∃ released ∈ between, released.Says .resourceReleased r a := by
  by_contra hnone
  push Not at hnone
  rw [Coherent, List.append_assoc, List.cons_append, guarded_append] at h
  obtain ⟨-, -, hrest⟩ := h
  rw [guarded_append] at hrest
  obtain ⟨hbetween, hlast, -⟩ := hrest
  have hkeeps : Guarded (replay r) (fun _ event => ¬ event.Says .resourceReleased r a)
      (replay r (runAll (replay r) .free before) acquired) between :=
    guarded_of_forall_mem (fun event hevent _ => hnone event hevent) _
  have howner := (hbetween.and hkeeps).invariant (fun view => view.owner = some a)
    (fun view event hview hg => owner_until_released hview hg.1 hg.2)
    (owner_of_acquired hacquired)
  have hfree := hlast hagain.2.1
  rw [ResourceView.Allows, hagain.1] at hfree
  simp [hfree] at howner

end Replay

def ResourceSlot.view (slot : ResourceSlot) : ResourceView :=
  ⟨slot.resource.ownerRobotId, slot.resource.acquiredAt, slot.queue⟩

namespace ResourceLockManager

def viewOf (manager : ResourceLockManager) (resourceId : String) : Option ResourceView :=
  (manager.resources.get? resourceId).bind fun resource =>
    (manager.waitQueues.get? resourceId).map fun queue =>
      ⟨resource.ownerRobotId, resource.acquiredAt, queue⟩

structure Became (manager manager' : ResourceLockManager) (resourceId : String)
    (view : ResourceView) (events : List ResourceEvent) : Prop where
  logged : manager'.eventSink = manager.eventSink ++ events
  here : manager'.viewOf resourceId = some view
  elsewhere : ∀ r, r ≠ resourceId → manager'.viewOf r = manager.viewOf r

variable {env : Environment} {manager manager' : ResourceLockManager}
variable {r a : String} {view view' : ResourceView} {events : List ResourceEvent}

section Views

lemma viewOf_eq (manager : ResourceLockManager) (r : String) :
    manager.viewOf r = (manager.slotOf r).map ResourceSlot.view := by
  rw [viewOf, slotOf]
  cases manager.resources.get? r with
  | none => rfl
  | some resource => cases manager.waitQueues.get? r <;> rfl

lemma slot_of_view (h : manager.viewOf r = some view) :
    ∃ slot, manager.slotOf r = some slot ∧ slot.view = view := by
  rw [viewOf_eq] at h
  exact Option.map_eq_some_iff.mp h

lemma SameLocks.viewOf (h : SameLocks manager manager') (r : String) :
    manager'.viewOf r = manager.viewOf r := by
  rw [viewOf_eq, viewOf_eq, h.slotOf]

lemma Puts.became {slot : ResourceSlot} (h : Puts manager manager' r slot events) :
    Became manager manager' r slot.view events where
  logged := h.logged
  here := by rw [viewOf_eq, h.here, Option.map_some]
  elsewhere j hj := by rw [viewOf_eq, viewOf_eq, h.elsewhere j hj]

end Views

structure Tells (resourceId : String) (view : ResourceView) (events : List ResourceEvent)
    (view' : ResourceView) : Prop where
  about : ∀ event ∈ events, event.resourceId = resourceId
  allowed : Guarded ResourceView.apply ResourceView.Allows view events
  told : runAll ResourceView.apply view events = view'

section Calls

variable {slot : ResourceSlot}

lemma tells_release (hid : slot.resource.resourceId = r)
    (howner : slot.resource.ownerRobotId = some a) (hdistinct : slot.queue.Nodup) (ts : String) :
    Tells r slot.view (slot.releaseEvents ts) (slot.handedOver ts).view := by
  obtain ⟨resource, queue⟩ := slot
  cases queue with
  | nil =>
    refine ⟨?_, ⟨rfl, trivial⟩, rfl⟩
    simpa [ResourceSlot.releaseEvents] using hid
  | cons next rest =>
    refine ⟨?_, ⟨rfl, rfl, trivial⟩, ?_⟩
    · simpa [ResourceSlot.releaseEvents] using hid
    · have hrest : ∀ b ∈ rest, b ≠ next := fun b hb =>
        ne_of_mem_of_not_mem hb (List.nodup_cons.mp hdistinct).1
      simpa [ResourceSlot.releaseEvents, ResourceSlot.handedOver, ResourceSlot.view,
        ResourceView.apply, howner] using hrest

variable (hstamps : ∀ moment, env.utcIsoformat moment ≠ "")
include hstamps

lemma tells_acquire_taken (hslot : manager.slotOf r = some slot)
    (htaken : slot.resource.ownerRobotId ≠ none) (timestamp : Option String) :
    Ends (acquire env r a timestamp) manager
      (fun _ t => ∃ view' events, Tells r slot.view events view' ∧ Became manager t r view' events)
      (fun _ => False) := by
  refine (puts_acquire_taken (timed_of_clock hstamps _) hslot htaken).mono ?_ (fun _ he => he)
  rintro _ t (ht | ⟨ts, reason, ht⟩)
  · exact ⟨_, [], ⟨by simp, trivial, rfl⟩, ht.became⟩
  · have htells : Tells r slot.view [⟨ts, .resourceWaiting, r, some a, reason⟩]
        (ResourceSlot.view { slot with queue := slot.queue ++ [a] }) :=
      ⟨by simp, ⟨trivial, trivial⟩, rfl⟩
    exact ⟨_, _, htells, ht.became⟩

lemma became_release (hslot : manager.slotOf r = some slot) (hid : slot.resource.resourceId = r)
    (hdistinct : slot.queue.Nodup) (timestamp : Option String) :
    Ends (release env r a timestamp) manager
      (fun _ t => ∃ view' events, Tells r slot.view events view' ∧ Became manager t r view' events)
      (fun t => t = manager) := by
  by_cases hmine : slot.resource.ownerRobotId = some a
  · refine (puts_release (timed_of_clock hstamps _) hslot hid hmine).mono ?_ (fun _ he => he.elim)
    rintro _ t ⟨ts, -, ht⟩
    exact ⟨_, _, tells_release hid hmine hdistinct ts, ht.became⟩
  · rw [release, ends_bind]
    refine (getResource_of_slot hslot).mono ?_ (fun _ he => he.elim)
    rintro _ _ ⟨rfl, rfl⟩
    rw [if_pos hmine, ends_throw]

end Calls

structure Faithful (known : String → Bool) (manager : ResourceLockManager) : Prop where
  shown : ∀ r, manager.viewOf r = if known r then some (replayed manager.eventSink r) else none
  coherent : ∀ r, Coherent manager.eventSink r

section Faithful

variable {known : String → Bool} {locks : String → FifoLock String}

lemma Faithful.viewed (h : manager.Faithful known) (hr : known r = true) :
    manager.viewOf r = some (replayed manager.eventSink r) := by
  rw [h.shown r, if_pos hr]

lemma Faithful.became (h : manager.Faithful known) (hr : known r = true)
    (htells : Tells r (replayed manager.eventSink r) events view')
    (hbecame : Became manager manager' r view' events) : manager'.Faithful known := by
  have hothers : ∀ j, j ≠ r → ∀ event ∈ events, event.resourceId ≠ j := by
    intro j hj event hevent hsame
    exact hj (hsame.symm.trans (htells.about event hevent))
  constructor
  · intro j
    rw [hbecame.logged, replayed, runAll_append]
    by_cases hj : j = r
    · subst hj
      rw [replay_own htells.about, if_pos hr, hbecame.here]
      exact congrArg some htells.told.symm
    · rw [replay_others (hothers j hj), hbecame.elsewhere j hj]
      exact h.shown j
  · intro j
    rw [hbecame.logged, Coherent, guarded_append]
    refine ⟨h.coherent j, ?_⟩
    by_cases hj : j = r
    · subst hj
      exact guarded_own htells.about htells.allowed
    · exact guarded_of_forall_mem
        (fun event hevent _ hsame => absurd hsame (hothers j hj event hevent)) _

lemma Faithful.timeout (h : manager.Faithful known) (hsame : SameLocks manager manager')
    {event : ResourceEvent} (hkind : event.event = .resourceTimeout)
    (hlogged : manager'.eventSink = manager.eventSink ++ [event]) : manager'.Faithful known := by
  have hstay : ∀ j view, replay j view event = view := by
    intro j view
    rw [replay, ResourceView.apply, hkind, ite_self]
  constructor
  · intro j
    rw [hsame.viewOf j, hlogged, replayed, runAll_append, runAll_cons, hstay]
    exact h.shown j
  · intro j
    rw [hlogged, Coherent, guarded_append]
    refine ⟨h.coherent j, fun _ => ?_, trivial⟩
    rw [ResourceView.Allows, hkind]
    trivial

lemma Shows.viewed (h : manager.Shows known locks) {slot : ResourceSlot}
    (hslot : manager.slotOf r = some slot) :
    slot.resource.ownerRobotId = (locks r).owner ∧ slot.queue = (locks r).queue ∧
      slot.resource.resourceId = r := by
  have hresource := resource_of_slot hslot
  refine ⟨?_, ?_, h.named r _ hresource⟩
  · rw [← Function.comp_apply (f := FifoLock.owner), ← h.owners r, ownerOf, hresource,
      Option.bind_some]
  · rw [← Function.comp_apply (f := FifoLock.queue), ← h.queues r, waitersOf, queue_of_slot hslot,
      Option.getD_some]

end Faithful

def Kept (known : String → Bool) (manager : ResourceLockManager) : Prop :=
  manager.Faithful known ∧ ∃ locks, manager.Shows known locks

section Kept

variable {known : String → Bool} (hstamps : ∀ moment, env.utcIsoformat moment ≠ "")
include hstamps

lemma kept_acquire (r a : String) (timestamp : Option String) :
    Preserves (Kept known) (acquire env r a timestamp) := by
  rintro manager ⟨hfaithful, locks, hlocks⟩
  cases hr : known r with
  | false =>
    refine (ends_acquire_unknown hlocks hr timestamp).mono (fun _ _ hq => hq.elim) ?_
    rintro _ rfl
    exact ⟨hfaithful, locks, hlocks⟩
  | true =>
    obtain ⟨slot, hslot, hview⟩ := slot_of_view (hfaithful.viewed hr)
    obtain ⟨howner, hqueue, -⟩ := hlocks.viewed hslot
    have htold : Ends (acquire env r a timestamp) manager (fun _ t => t.Faithful known)
        (fun _ => False) := by
      by_cases hfree : slot.resource.ownerRobotId = none
      · refine (puts_acquire (timed_of_clock hstamps _) hslot hfree).mono ?_ (fun _ he => he)
        rintro _ t ⟨-, ts, -, ht⟩
        refine hfaithful.became hr ?_ ht.became
        rw [← hview]
        refine ⟨by simp, ⟨hfree, trivial⟩, ?_⟩
        rw [howner] at hfree
        simp [ResourceView.apply, ResourceSlot.view, hqueue, FifoLock.queue_of_free hfree]
      · refine (tells_acquire_taken hstamps hslot hfree timestamp).mono ?_ (fun _ he => he)
        rintro _ t ⟨view', events, htells, ht⟩
        rw [hview] at htells
        exact hfaithful.became hr htells ht
    refine (htold.and (ends_acquire hlocks hr timestamp)).mono ?_ (fun _ he => he.1.elim)
    rintro result t ⟨ht, hshows, -⟩
    exact ⟨ht, _, hshows⟩

lemma kept_release (r a : String) (timestamp : Option String) :
    Preserves (Kept known) (release env r a timestamp) := by
  rintro manager ⟨hfaithful, locks, hlocks⟩
  have htold : Ends (release env r a timestamp) manager (fun _ t => t.Faithful known)
      (fun t => t = manager) := by
    cases hr : known r with
    | false =>
      rw [release, ends_bind]
      exact (ends_getResource_unknown hlocks hr).mono (fun _ _ hq => hq.elim) (fun _ he => he)
    | true =>
      obtain ⟨slot, hslot, hview⟩ := slot_of_view (hfaithful.viewed hr)
      obtain ⟨-, hqueue, hid⟩ := hlocks.viewed hslot
      have hdistinct : slot.queue.Nodup := by
        rw [hqueue]
        exact (locks r).distinct
      refine (became_release hstamps hslot hid hdistinct timestamp).mono ?_ (fun _ he => he)
      rintro _ t ⟨view', events, htells, ht⟩
      rw [hview] at htells
      exact hfaithful.became hr htells ht
  refine (htold.and (ends_release_shows hlocks timestamp)).mono ?_ ?_
  · rintro _ t ⟨ht, hshows⟩
    exact ⟨ht, _, hshows⟩
  · rintro _ ⟨rfl, -⟩
    exact ⟨hfaithful, locks, hlocks⟩

lemma kept_sweepResource (now utc : Datetime) (limit : Floating) (resource : ResourceRecord) :
    Preserves (Kept known) (sweepResource env now limit (env.utcStamp utc) resource) := by
  intro manager hkept
  rw [sweepResource]
  cases resource.ownerRobotId with
  | none => exact hkept
  | some owner =>
    cases resource.acquiredAt with
    | none => exact hkept
    | some acquiredAt =>
      rw [ends_bind]
      refine (ends_ownershipAgeSec now).mono ?_ ?_
      · rintro age _ rfl
        cases age with
        | none => exact hkept
        | some ageSec =>
          dsimp only
          split_ifs
          · exact hkept
          · rw [ends_bind]
            refine (kept_release hstamps _ owner _ _ hkept).mono ?_ (fun _ he => he)
            rintro _ t ⟨hfaithful, locks, hlocks⟩
            rw [ends_bind]
            refine (logged_emit (Environment.utcStamp_ne_empty hstamps utc) _ _ _).mono ?_
              (fun _ he => he.elim)
            rintro _ u ⟨hsame, hlogged⟩
            exact ⟨hfaithful.timeout hsame rfl hlogged, locks, Holds.same hlocks hsame⟩
      · rintro _ rfl
        exact hkept

lemma kept_step (op : ResourceOp) (h : Kept known manager) :
    Kept known (ResourceOp.step env manager op) := by
  rw [ResourceOp.step]
  cases op with
  | acquire r a timestamp =>
    rw [ResourceOp.call, final_discard]
    exact (kept_acquire hstamps r a timestamp).final h
  | acquireOrdered a resourceIds timestamp =>
    rw [ResourceOp.call, final_discard]
    refine Ends.final (P := Kept known) ?_
    refine ends_mapM (fun _ _ t => Kept known t) h ?_
    intro _ _ r _ t _ ht
    rw [ends_bind]
    exact kept_acquire hstamps r a timestamp t ht
  | release r a timestamp =>
    rw [ResourceOp.call, final_discard]
    exact (kept_release hstamps r a timestamp).final h
  | sweepTimeouts now timeoutSec =>
    rw [ResourceOp.call, final_discard]
    refine Ends.final (P := Kept known) ?_
    rw [sweepTimeouts, ends_bind, ends_get, ends_bind]
    refine ends_orRaise (fun utc _ => ?_) (fun _ _ => h)
    rw [ends_bind]
    refine ends_mapM (fun _ _ t => Kept known t) h ?_
    intro _ _ resource _ t _ ht
    exact kept_sweepResource hstamps now utc _ resource t ht

end Kept

lemma faithful_init (env : Environment) (resourceIds : List String) (timeoutSec : Floating)
    (ticks : ℕ) :
    (init env resourceIds timeoutSec ticks).Faithful fun r => decide (r ∈ resourceIds) where
  shown r := by
    have hrecord := Dict.get?_ofList_map (fun resourceId =>
      (⟨resourceId, none, none, env.utcStamp (env.clock ticks)⟩ : ResourceRecord)) resourceIds
    have hqueue := Dict.get?_ofList_map (fun _ => ([] : List String)) resourceIds
    rw [viewOf, init, hrecord, hqueue]
    by_cases hr : r ∈ resourceIds
    · simp [hr, replayed, ResourceView.free]
    · simp [hr]
  coherent _ := trivial

end ResourceLockManager

open ResourceLockManager in
theorem event_log_is_a_faithful_history (env : Environment)
    (hstamps : ∀ moment, env.utcIsoformat moment ≠ "") (resourceIds : List String)
    (timeoutSec : Floating) (ticks : ℕ) (ops : List ResourceOp) :
    let manager := runAll (ResourceOp.step env) (init env resourceIds timeoutSec ticks) ops
    (∀ r, manager.viewOf r =
      if r ∈ resourceIds then some (replayed manager.eventSink r) else none) ∧
    ∀ r a b before acquired between again after,
      manager.eventSink = before ++ acquired :: between ++ again :: after →
      acquired.Says .resourceAcquired r a → again.Says .resourceAcquired r b →
      ∃ released ∈ between, released.Says .resourceReleased r a := by
  intro manager
  have hstart : Kept (fun r => decide (r ∈ resourceIds)) (init env resourceIds timeoutSec ticks) :=
    ⟨faithful_init env resourceIds timeoutSec ticks, _, shows_init env resourceIds timeoutSec ticks⟩
  have hall : Guarded (ResourceOp.step env) (fun _ _ => True)
      (init env resourceIds timeoutSec ticks) ops :=
    guarded_of_forall (fun _ _ => trivial) _ ops
  obtain ⟨hfaithful, -⟩ := hall.invariant (Kept fun r => decide (r ∈ resourceIds))
    (fun _ op hkept _ => kept_step hstamps op hkept) hstart
  constructor
  · intro r
    simpa only [decide_eq_true_eq] using hfaithful.shown r
  · intro r a b before acquired between again after hlog hacquired hagain
    have hcoherent := hfaithful.coherent r
    rw [hlog] at hcoherent
    exact hcoherent.released_between hacquired hagain

def aisleHandOver : List ResourceOp :=
  [.acquire "narrow_aisle_1" "robot_1" none, .acquire "narrow_aisle_1" "robot_2" none,
    .release "narrow_aisle_1" "robot_1" none]

open ResourceLockManager in
theorem event_log_is_a_faithful_history_of_hand_over :
    let manager := runAll (ResourceOp.step still)
      (init still defaultDemoResources defaultResourceTimeoutSec 0) aisleHandOver
    manager.viewOf "narrow_aisle_1" = some (replayed manager.eventSink "narrow_aisle_1") ∧
      manager.ownerOf "narrow_aisle_1" = some "robot_2" := by
  intro manager
  have hstamp : "1970-01-01T00:00:00+00:00" ≠ "" := by decide
  obtain ⟨hshown, -⟩ := event_log_is_a_faithful_history still (fun _ => hstamp)
    defaultDemoResources defaultResourceTimeoutSec 0 aisleHandOver
  refine ⟨?_, by decide +kernel⟩
  rw [hshown "narrow_aisle_1", if_pos (by decide)]

end Fleet
