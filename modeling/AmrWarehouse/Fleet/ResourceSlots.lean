import AmrWarehouse.Fleet.FleetRuns
import AmrWarehouse.Fleet.LockCalls

/-! What the calls of the lock manager put into its tables, with the times, and what they log. -/

namespace Fleet

open Library

structure ResourceSlot where
  resource : ResourceRecord
  queue : List String
  deriving DecidableEq

namespace ResourceSlot

def handedOver (timestamp : String) (slot : ResourceSlot) : ResourceSlot :=
  match slot.queue with
  | [] => ⟨⟨slot.resource.resourceId, none, none, timestamp⟩, []⟩
  | next :: rest => ⟨⟨slot.resource.resourceId, some next, some timestamp, timestamp⟩, rest⟩

def releaseEvents (timestamp : String) (slot : ResourceSlot) : List ResourceEvent :=
  ⟨timestamp, .resourceReleased, slot.resource.resourceId, slot.resource.ownerRobotId,
    some "explicit release"⟩ ::
    slot.queue.head?.toList.map fun next =>
      ⟨timestamp, .resourceAcquired, slot.resource.resourceId, some next, some "resource was free"⟩

end ResourceSlot

/-- A call with this argument has a time to log: its own, or that of the clock. -/
def Timed (env : Environment) (timestamp : Option String) : Prop :=
  timestamp.getD "" = "" → ∀ moment, env.utcIsoformat moment ≠ ""

lemma timed_of_given {env : Environment} {ts : String} (h : ts ≠ "") : Timed env (some ts) :=
  fun hempty => absurd hempty h

lemma timed_of_clock {env : Environment} (h : ∀ moment, env.utcIsoformat moment ≠ "")
    (timestamp : Option String) : Timed env timestamp :=
  fun _ => h

def Stamps (timestamp : Option String) (ts : String) : Prop :=
  ts ≠ "" ∧ (timestamp.getD "" ≠ "" → timestamp = some ts)

lemma Stamps.eq_given {ts stamp : String} (h : Stamps (some ts) stamp) (hts : ts ≠ "") :
    stamp = ts :=
  (Option.some.inj (h.2 hts)).symm

lemma Environment.utcStamp_ne_empty {env : Environment} (h : ∀ moment, env.utcIsoformat moment ≠ "")
    (moment : Datetime) : env.utcStamp moment ≠ "" :=
  replaceText_ne_empty (h moment) (by decide)

namespace ResourceLockManager

def slotOf (manager : ResourceLockManager) (resourceId : String) : Option ResourceSlot :=
  (manager.resources.get? resourceId).bind fun resource =>
    (manager.waitQueues.get? resourceId).map fun queue => ⟨resource, queue⟩

structure Puts (manager manager' : ResourceLockManager) (resourceId : String)
    (slot : ResourceSlot) (events : List ResourceEvent) : Prop where
  logged : manager'.eventSink = manager.eventSink ++ events
  here : manager'.slotOf resourceId = some slot
  elsewhere : ∀ r, r ≠ resourceId → manager'.slotOf r = manager.slotOf r

def Unchanged (manager manager' : ResourceLockManager) : Prop :=
  SameLocks manager manager' ∧ manager'.eventSink = manager.eventSink

variable {env : Environment} {manager manager' manager'' : ResourceLockManager}
variable {r a ts : String} {slot slot' : ResourceSlot} {events events' : List ResourceEvent}

section Slots

lemma SameLocks.slotOf (h : SameLocks manager manager') (r : String) :
    manager'.slotOf r = manager.slotOf r := by
  rw [ResourceLockManager.slotOf, ResourceLockManager.slotOf, h.1, h.2]

lemma Unchanged.puts (h : Unchanged manager manager') (hslot : manager.slotOf r = some slot) :
    Puts manager manager' r slot [] where
  logged := by rw [h.2, List.append_nil]
  here := (h.1.slotOf r).trans hslot
  elsewhere j _ := h.1.slotOf j

lemma unchanged_refl (manager : ResourceLockManager) : Unchanged manager manager :=
  ⟨⟨rfl, rfl⟩, rfl⟩

lemma Puts.refl (h : manager.slotOf r = some slot) : Puts manager manager r slot [] :=
  (unchanged_refl manager).puts h

lemma Puts.trans (h : Puts manager manager' r slot events)
    (h' : Puts manager' manager'' r slot' events') :
    Puts manager manager'' r slot' (events ++ events') where
  logged := by rw [h'.logged, h.logged, List.append_assoc]
  here := h'.here
  elsewhere j hj := (h'.elsewhere j hj).trans (h.elsewhere j hj)

lemma resource_of_slot (h : manager.slotOf r = some slot) :
    manager.resources.get? r = some slot.resource := by
  obtain ⟨resource, hresource, hrest⟩ := Option.bind_eq_some_iff.mp h
  obtain ⟨queue, -, rfl⟩ := Option.map_eq_some_iff.mp hrest
  exact hresource

lemma queue_of_slot (h : manager.slotOf r = some slot) :
    manager.waitQueues.get? r = some slot.queue := by
  obtain ⟨resource, -, hrest⟩ := Option.bind_eq_some_iff.mp h
  obtain ⟨queue, hqueue, rfl⟩ := Option.map_eq_some_iff.mp hrest
  exact hqueue

lemma slotOf_eq {resource : ResourceRecord} {queue : List String}
    (hresource : manager.resources.get? r = some resource)
    (hqueue : manager.waitQueues.get? r = some queue) :
    manager.slotOf r = some ⟨resource, queue⟩ := by
  rw [slotOf, hresource, Option.bind_some, hqueue, Option.map_some]

lemma getResource_of_slot (h : manager.slotOf r = some slot) :
    Ends (getResource r) manager (fun resource t => resource = slot.resource ∧ t = manager)
      (fun _ => False) := by
  rw [getResource, ends_bind, ends_get, resource_of_slot h, ends_pure]
  exact ⟨rfl, rfl⟩

lemma waitQueue_of_slot (h : manager.slotOf r = some slot) :
    Ends (waitQueue r) manager (fun queue t => queue = slot.queue ∧ t = manager)
      (fun _ => False) := by
  rw [waitQueue, ends_bind, ends_get, queue_of_slot h, ends_pure]
  exact ⟨rfl, rfl⟩

lemma stamp_orNow {timestamp : Option String} (htimed : Timed env timestamp) :
    Ends (orNow env timestamp) manager (fun ts t => Stamps timestamp ts ∧ Unchanged manager t)
      (fun _ => False) := by
  have hnow (hempty : timestamp.getD "" = "") : Ends (nowTimestamp env) manager
      (fun ts t => Stamps timestamp ts ∧ Unchanged manager t) (fun _ => False) := by
    rw [nowTimestamp, ends_bind, ends_get, ends_bind, ends_set, ends_pure]
    have hts := Environment.utcStamp_ne_empty (htimed hempty) (env.clock manager.ticks)
    exact ⟨⟨hts, fun hgiven => absurd hempty hgiven⟩, ⟨rfl, rfl⟩, rfl⟩
  cases timestamp with
  | none => exact hnow rfl
  | some ts =>
    rw [orNow]
    split_ifs with hempty
    · exact hnow hempty
    · exact ⟨⟨hempty, fun _ => rfl⟩, unchanged_refl manager⟩

lemma puts_replaceResource (h : manager.slotOf r = some slot) (o acquiredAt : Option String)
    (updatedAt : String) :
    Ends (replaceResource ⟨r, o, acquiredAt, updatedAt⟩) manager
      (fun _ t => Puts manager t r ⟨⟨r, o, acquiredAt, updatedAt⟩, slot.queue⟩ [])
      (fun _ => False) := by
  rw [replaceResource, ends_modify]
  have hqueue := queue_of_slot h
  refine ⟨(List.append_nil _).symm, slotOf_eq (Dict.get?_set_self ..) hqueue, ?_⟩
  intro j hj
  rw [slotOf, slotOf, Dict.get?_set_of_ne _ _ hj]

lemma puts_setWaitQueue (h : manager.slotOf r = some slot) (queue : List String) :
    Ends (setWaitQueue r queue) manager
      (fun _ t => Puts manager t r { slot with queue := queue } []) (fun _ => False) := by
  rw [setWaitQueue, ends_modify]
  have hresource := resource_of_slot h
  refine ⟨(List.append_nil _).symm, slotOf_eq hresource (Dict.get?_set_self ..), ?_⟩
  intro j hj
  rw [slotOf, slotOf, Dict.get?_set_of_ne _ _ hj]

lemma logged_emit (hts : ts ≠ "") (event : ResourceEventKind) (robotId reason : Option String) :
    Ends (emit env event r robotId reason (some ts)) manager
      (fun _ t => SameLocks manager t ∧
        t.eventSink = manager.eventSink ++ [⟨ts, event, r, robotId, reason⟩])
      (fun _ => False) := by
  rw [emit, ends_bind, orNow, if_neg hts, ends_pure, ends_modify]
  exact ⟨⟨rfl, rfl⟩, rfl⟩

lemma puts_emit (hts : ts ≠ "") (h : manager.slotOf r = some slot) (event : ResourceEventKind)
    (robotId reason : Option String) :
    Ends (emit env event r robotId reason (some ts)) manager
      (fun _ t => Puts manager t r slot [⟨ts, event, r, robotId, reason⟩]) (fun _ => False) := by
  refine (logged_emit hts event robotId reason).mono ?_ (fun _ he => he)
  rintro _ t ⟨hsame, hlogged⟩
  exact ⟨hlogged, (hsame.slotOf r).trans h, fun j _ => hsame.slotOf j⟩

end Slots

section Calls

variable {timestamp : Option String}
variable (htimed : Timed env timestamp)

include htimed in
lemma puts_acquire (h : manager.slotOf r = some slot) (hfree : slot.resource.ownerRobotId = none) :
    Ends (acquire env r a timestamp) manager
      (fun result t => result = .acquired ∧ ∃ ts, Stamps timestamp ts ∧
        Puts manager t r ⟨⟨r, some a, some ts, ts⟩, slot.queue⟩
          [⟨ts, .resourceAcquired, r, some a, some "resource was free"⟩])
      (fun _ => False) := by
  rw [acquire, ends_bind]
  refine (getResource_of_slot h).mono ?_ (fun _ he => he)
  rintro _ _ ⟨rfl, rfl⟩
  have hisFree : slot.resource.isFree = true := by simp [ResourceRecord.isFree, hfree]
  rw [ends_bind]
  refine (stamp_orNow htimed).mono ?_ (fun _ he => he)
  rintro ts t ⟨hts, ht⟩
  have hsame := ht.puts h
  rw [if_neg (by simp [hfree]), if_pos hisFree, ends_bind]
  refine (puts_replaceResource hsame.here _ _ _).mono ?_ (fun _ he => he)
  intro _ u hu
  rw [ends_bind]
  refine (puts_emit hts.1 hu.here _ _ _).mono ?_ (fun _ he => he)
  intro _ v hv
  exact ⟨rfl, ts, hts, (hsame.trans hu).trans hv⟩

include htimed in
lemma puts_acquire_taken (h : manager.slotOf r = some slot)
    (htaken : slot.resource.ownerRobotId ≠ none) :
    Ends (acquire env r a timestamp) manager
      (fun _ t => Puts manager t r slot [] ∨ ∃ ts reason,
        Puts manager t r { slot with queue := slot.queue ++ [a] }
          [⟨ts, .resourceWaiting, r, some a, reason⟩])
      (fun _ => False) := by
  rw [acquire, ends_bind]
  refine (getResource_of_slot h).mono ?_ (fun _ he => he)
  rintro _ _ ⟨rfl, rfl⟩
  have hisFree : ¬ slot.resource.isFree = true := by simp [ResourceRecord.isFree, htaken]
  rw [ends_bind]
  refine (stamp_orNow htimed).mono ?_ (fun _ he => he)
  rintro ts t ⟨hts, ht⟩
  have hsame := ht.puts h
  by_cases hmine : slot.resource.ownerRobotId = some a
  · rw [if_pos hmine, ends_pure]
    exact .inl hsame
  · rw [if_neg hmine, if_neg hisFree, ends_bind]
    refine (waitQueue_of_slot hsame.here).mono ?_ (fun _ he => he)
    rintro _ _ ⟨rfl, rfl⟩
    rw [ends_bind]
    apply ends_whenever
    · intro hnew
      rw [ends_bind]
      refine (puts_setWaitQueue hsame.here _).mono ?_ (fun _ he => he)
      intro _ u hu
      refine (puts_emit hts.1 hu.here _ _ _).mono ?_ (fun _ he => he)
      intro _ v hv
      exact .inr ⟨ts, _, (hsame.trans hu).trans hv⟩
    · intro _
      exact .inl hsame

lemma puts_handOver (hts : ts ≠ "") (h : manager.slotOf r = some slot)
    (hfree : slot.resource = ⟨r, none, none, ts⟩) :
    Ends (handOver env r ts slot.queue) manager
      (fun _ t => Puts manager t r (slot.handedOver ts)
        (slot.queue.head?.toList.map fun next =>
          ⟨ts, .resourceAcquired, r, some next, some "resource was free"⟩))
      (fun _ => False) := by
  obtain ⟨resource, queue⟩ := slot
  subst hfree
  cases queue with
  | nil =>
    rw [handOver, ends_pure]
    exact Puts.refl h
  | cons next rest =>
    rw [handOver, ends_bind]
    refine (puts_setWaitQueue h rest).mono ?_ (fun _ he => he)
    intro _ t ht
    rw [ends_bind]
    refine (puts_acquire (timed_of_given hts) ht.here rfl).mono ?_ (fun _ he => he)
    rintro _ u ⟨rfl, stamp, hstamp, hu⟩
    obtain rfl := hstamp.eq_given hts
    rw [ends_pure]
    exact ht.trans hu

include htimed in
lemma puts_release (h : manager.slotOf r = some slot) (hid : slot.resource.resourceId = r)
    (howner : slot.resource.ownerRobotId = some a) :
    Ends (release env r a timestamp) manager
      (fun _ t => ∃ ts, Stamps timestamp ts ∧
        Puts manager t r (slot.handedOver ts) (slot.releaseEvents ts))
      (fun _ => False) := by
  rw [release, ends_bind]
  refine (getResource_of_slot h).mono ?_ (fun _ he => he)
  rintro _ _ ⟨rfl, rfl⟩
  rw [if_neg (not_not.mpr howner), ends_bind]
  refine (stamp_orNow htimed).mono ?_ (fun _ he => he)
  rintro ts t ⟨hts, ht⟩
  have hsame := ht.puts h
  rw [ends_bind]
  refine (puts_replaceResource hsame.here _ _ _).mono ?_ (fun _ he => he)
  intro _ u hu
  rw [ends_bind]
  refine (puts_emit hts.1 hu.here _ _ _).mono ?_ (fun _ he => he)
  intro _ v hv
  rw [ends_bind]
  refine (waitQueue_of_slot hv.here).mono ?_ (fun _ he => he)
  rintro _ _ ⟨rfl, rfl⟩
  rw [ends_bind]
  refine (puts_handOver hts.1 hv.here rfl).mono ?_ (fun _ he => he)
  intro _ w hw
  refine (getResource_of_slot hw.here).mono ?_ (fun _ he => he)
  rintro _ _ ⟨-, rfl⟩
  have hall := ((hsame.trans hu).trans hv).trans hw
  refine ⟨ts, hts, ?_⟩
  rw [ResourceSlot.handedOver, ResourceSlot.releaseEvents, hid, howner]
  exact hall

end Calls

end ResourceLockManager

end Fleet
