import AmrWarehouse.Library.Turns
import AmrWarehouse.Fleet.EventLog

/-! Whoever waits for a resource gets it when it has been released once for everybody before it in
the queue and once more, whoever releases it and however. -/

namespace Fleet

open Library

def turnOf (resourceId : String) (event : ResourceEvent) : Turn String :=
  if event.resourceId = resourceId then
    match event.event, event.robotId with
    | .resourceAcquired, some robotId => .grant robotId
    | .resourceWaiting, some robotId => .wait robotId
    | .resourceReleased, _ => .free
    | _, _ => .idle
  else .idle

def turns (resourceId : String) (log : List ResourceEvent) : List (Turn String) :=
  log.map (turnOf resourceId)

def ResourceSlot.line (slot : ResourceSlot) : Line String :=
  ⟨slot.resource.ownerRobotId.isSome, slot.queue⟩

def releases (resourceId : String) (log : List ResourceEvent) : ℕ :=
  log.countP fun event => event.event = .resourceReleased ∧ event.resourceId = resourceId

lemma frees_turns (r : String) (log : List ResourceEvent) :
    frees (turns r log) = releases r log := by
  rw [frees, turns, List.countP_map, releases]
  congr 1
  funext event
  rw [Function.comp_apply, turnOf]
  split_ifs with hr
  · cases event.event <;> cases event.robotId <;> simp [hr]
  · simp [hr]

lemma turnOf_others {r : String} {event : ResourceEvent} (h : event.resourceId ≠ r) :
    turnOf r event = .idle :=
  if_neg h

namespace ResourceLockManager

/-- The log goes on from an earlier one. Told as turns it gives the line of each resource, and every
turn was fair. -/
structure Lined (earlier : List ResourceEvent) (manager : ResourceLockManager) : Prop where
  extends_log : earlier <+: manager.eventSink
  told : ∀ r slot, manager.slotOf r = some slot →
    Guarded Line.apply Line.Fair .empty (turns r manager.eventSink) ∧
      runAll Line.apply .empty (turns r manager.eventSink) = slot.line

variable {env : Environment} {manager manager' : ResourceLockManager} {known : String → Bool}
variable {locks : String → FifoLock String} {r a : String} {slot slot' : ResourceSlot}
variable {events earlier : List ResourceEvent}

section Lines

lemma idle_turns (h : ∀ event ∈ events, event.resourceId ≠ r) (line : Line String) :
    Guarded Line.apply Line.Fair line (turns r events) ∧
      runAll Line.apply line (turns r events) = line := by
  induction events with
  | nil => exact ⟨trivial, rfl⟩
  | cons event events ih =>
    obtain ⟨hfair, hsame⟩ := ih fun e he => h e (List.mem_cons_of_mem event he)
    rw [turns, List.map_cons, turnOf_others (h event List.mem_cons_self)]
    exact ⟨⟨trivial, hfair⟩, hsame⟩

structure Plays (resourceId : String) (slot : ResourceSlot) (events : List ResourceEvent)
    (slot' : ResourceSlot) : Prop where
  about : ∀ event ∈ events, event.resourceId = resourceId
  fair : Guarded Line.apply Line.Fair slot.line (turns resourceId events)
  plays : runAll Line.apply slot.line (turns resourceId events) = slot'.line

lemma Lined.puts (h : Lined earlier manager) (hslot : manager.slotOf r = some slot)
    (hputs : Puts manager manager' r slot' events) (hplays : Plays r slot events slot') :
    Lined earlier manager' := by
  refine ⟨hputs.logged ▸ h.extends_log.trans (List.prefix_append _ _), ?_⟩
  intro j slotj hj
  rw [hputs.logged, turns, List.map_append, guarded_append, runAll_append]
  by_cases hjr : j = r
  · subst hjr
    obtain ⟨hfair, hline⟩ := h.told j slot hslot
    rw [turns] at hfair hline
    rw [hputs.here, Option.some.injEq] at hj
    rw [hline, ← hj]
    exact ⟨⟨hfair, hplays.fair⟩, hplays.plays⟩
  · rw [hputs.elsewhere j hjr] at hj
    obtain ⟨hfair, hline⟩ := h.told j slotj hj
    have hothers : ∀ event ∈ events, event.resourceId ≠ j := fun event hevent hsame =>
      hjr (hsame.symm.trans (hplays.about event hevent))
    obtain ⟨hidle, hsame⟩ := idle_turns hothers slotj.line
    rw [turns] at hfair hline
    rw [hline]
    exact ⟨⟨hfair, hidle⟩, hsame⟩

end Lines

section Calls

lemma plays_release (hid : slot.resource.resourceId = r)
    (howner : slot.resource.ownerRobotId = some a) (ts : String) :
    Plays r slot (slot.releaseEvents ts) (slot.handedOver ts) := by
  obtain ⟨resource, queue⟩ := slot
  have htaken : (ResourceSlot.line ⟨resource, queue⟩).taken = true := by
    simp [ResourceSlot.line, show resource.ownerRobotId = some a from howner]
  cases queue with
  | nil =>
    have hturns : turns r (ResourceSlot.releaseEvents ts ⟨resource, []⟩) = [.free] := by
      simp [turns, turnOf, ResourceSlot.releaseEvents, show resource.resourceId = r from hid]
    refine ⟨by simpa [ResourceSlot.releaseEvents] using hid, ?_, ?_⟩
    · rw [hturns]
      exact ⟨htaken, trivial⟩
    · rw [hturns]
      rfl
  | cons next rest =>
    have hturns : turns r (ResourceSlot.releaseEvents ts ⟨resource, next :: rest⟩) =
        [.free, .grant next] := by
      simp [turns, turnOf, ResourceSlot.releaseEvents, show resource.resourceId = r from hid]
    refine ⟨by simpa [ResourceSlot.releaseEvents] using hid, ?_, ?_⟩
    · rw [hturns]
      exact ⟨htaken, ⟨rfl, fun b hb => (Option.some.inj hb).symm⟩, trivial⟩
    · rw [hturns]
      rfl

lemma plays_acquire (hqueue : slot.queue = []) (hfree : slot.resource.ownerRobotId = none)
    (ts : String) (reason : Option String) :
    Plays r slot [⟨ts, .resourceAcquired, r, some a, reason⟩]
      ⟨⟨r, some a, some ts, ts⟩, slot.queue⟩ := by
  have hturns : turns r [⟨ts, .resourceAcquired, r, some a, reason⟩] = [.grant a] := by
    simp [turns, turnOf]
  refine ⟨by simp, ?_, ?_⟩
  · rw [hturns]
    refine ⟨⟨by simp [ResourceSlot.line, hfree], ?_⟩, trivial⟩
    intro b hb
    rw [ResourceSlot.line, hqueue] at hb
    cases hb
  · rw [hturns]
    simp [Line.apply, ResourceSlot.line, hqueue]

lemma plays_wait (howner : slot.resource.ownerRobotId ≠ none) (ts : String)
    (reason : Option String) :
    Plays r slot [⟨ts, .resourceWaiting, r, some a, reason⟩]
      { slot with queue := slot.queue ++ [a] } := by
  have hturns : turns r [⟨ts, .resourceWaiting, r, some a, reason⟩] = [.wait a] := by
    simp [turns, turnOf]
  refine ⟨by simp, ?_, ?_⟩
  · rw [hturns]
    exact ⟨Option.isSome_iff_ne_none.mpr howner, trivial⟩
  · rw [hturns]
    rfl

lemma slot_of_known (h : manager.Shows known locks) (hr : known r = true) :
    ∃ slot, manager.slotOf r = some slot := by
  obtain ⟨resource, hresource⟩ := Option.isSome_iff_exists.mp ((h.knows r).trans hr)
  obtain ⟨queue, hqueue⟩ := Option.isSome_iff_exists.mp ((h.queued r).trans hr)
  exact ⟨_, slotOf_eq hresource hqueue⟩

def Queued (known : String → Bool) (earlier : List ResourceEvent)
    (manager : ResourceLockManager) : Prop :=
  Lined earlier manager ∧ ∃ locks, manager.Shows known locks

variable (hstamps : ∀ moment, env.utcIsoformat moment ≠ "")
include hstamps

lemma queued_acquire (r a : String) (timestamp : Option String) :
    Preserves (Queued known earlier) (acquire env r a timestamp) := by
  rintro manager ⟨hlined, locks, hlocks⟩
  cases hr : known r with
  | false =>
    refine (ends_acquire_unknown hlocks hr timestamp).mono (fun _ _ hq => hq.elim) ?_
    rintro _ rfl
    exact ⟨hlined, locks, hlocks⟩
  | true =>
    obtain ⟨slot, hslot⟩ := slot_of_known hlocks hr
    obtain ⟨howner, hqueue, -⟩ := hlocks.viewed hslot
    have htold : Ends (acquire env r a timestamp) manager (fun _ t => Lined earlier t)
        (fun _ => False) := by
      by_cases hfree : slot.resource.ownerRobotId = none
      · refine (puts_acquire (timed_of_clock hstamps _) hslot hfree).mono ?_ (fun _ he => he)
        rintro _ t ⟨-, ts, -, ht⟩
        have hnobody : slot.queue = [] := by
          rw [hqueue]
          exact FifoLock.queue_of_free (howner.symm.trans hfree)
        exact hlined.puts hslot ht (plays_acquire hnobody hfree ts _)
      · refine (puts_acquire_taken (timed_of_clock hstamps _) hslot hfree).mono ?_ (fun _ he => he)
        rintro _ t (ht | ⟨ts, reason, ht⟩)
        · exact hlined.puts hslot ht ⟨by simp, trivial, rfl⟩
        · exact hlined.puts hslot ht (plays_wait hfree ts reason)
    refine (htold.and (ends_acquire hlocks hr timestamp)).mono ?_ (fun _ he => he.1.elim)
    rintro result t ⟨ht, hshows, -⟩
    exact ⟨ht, _, hshows⟩

lemma queued_release (r a : String) (timestamp : Option String) :
    Preserves (Queued known earlier) (release env r a timestamp) := by
  rintro manager ⟨hlined, locks, hlocks⟩
  have htold : Ends (release env r a timestamp) manager (fun _ t => Lined earlier t)
      (fun t => t = manager) := by
    by_cases howned : (locks r).owner = some a
    · have hr : known r = true := known_of_owner hlocks howned
      obtain ⟨slot, hslot⟩ := slot_of_known hlocks hr
      obtain ⟨howner, -, hid⟩ := hlocks.viewed hslot
      have hmine := howner.trans howned
      refine (puts_release (timed_of_clock hstamps _) hslot hid hmine).mono ?_ (fun _ he => he.elim)
      rintro _ t ⟨ts, -, ht⟩
      exact hlined.puts hslot ht (plays_release hid hmine ts)
    · exact (ends_release_refused hlocks howned timestamp).mono (fun _ _ hq => hq.elim)
        (fun _ he => he)
  refine (htold.and (ends_release_shows hlocks timestamp)).mono ?_ ?_
  · rintro _ t ⟨ht, hshows⟩
    exact ⟨ht, _, hshows⟩
  · rintro _ ⟨rfl, -⟩
    exact ⟨hlined, locks, hlocks⟩

omit hstamps in
lemma Lined.timeout (h : Lined earlier manager) (hsame : SameLocks manager manager')
    {event : ResourceEvent} (hkind : event.event = .resourceTimeout)
    (hlogged : manager'.eventSink = manager.eventSink ++ [event]) : Lined earlier manager' := by
  refine ⟨hlogged ▸ h.extends_log.trans (List.prefix_append _ _), ?_⟩
  intro j slotj hj
  have hidle : turnOf j event = .idle := by
    rw [turnOf, hkind]
    split_ifs <;> rfl
  obtain ⟨hfair, hline⟩ := h.told j slotj (hsame.slotOf j ▸ hj)
  rw [hlogged, turns, List.map_append, List.map_singleton, hidle, guarded_append, runAll_append]
  rw [turns] at hfair hline
  rw [hline]
  exact ⟨⟨hfair, trivial, trivial⟩, rfl⟩

lemma queued_sweepResource (now utc : Datetime) (limit : Floating) (resource : ResourceRecord) :
    Preserves (Queued known earlier) (sweepResource env now limit (env.utcStamp utc) resource) := by
  intro manager hqueued
  rw [sweepResource]
  cases resource.ownerRobotId with
  | none => exact hqueued
  | some owner =>
    cases resource.acquiredAt with
    | none => exact hqueued
    | some acquiredAt =>
      rw [ends_bind]
      refine (ends_ownershipAgeSec now).mono ?_ ?_
      · rintro age _ rfl
        cases age with
        | none => exact hqueued
        | some ageSec =>
          dsimp only
          split_ifs
          · exact hqueued
          · rw [ends_bind]
            refine (queued_release hstamps _ owner _ _ hqueued).mono ?_ (fun _ he => he)
            rintro _ t ⟨hlined, locks, hlocks⟩
            rw [ends_bind]
            refine (logged_emit (Environment.utcStamp_ne_empty hstamps utc) _ _ _).mono ?_
              (fun _ he => he.elim)
            rintro _ u ⟨hsame, hlogged⟩
            exact ⟨hlined.timeout hsame rfl hlogged, locks, Holds.same hlocks hsame⟩
      · rintro _ rfl
        exact hqueued

lemma queued_step (op : ResourceOp) (h : Queued known earlier manager) :
    Queued known earlier (ResourceOp.step env manager op) := by
  rw [ResourceOp.step]
  cases op with
  | acquire r a timestamp =>
    rw [ResourceOp.call, final_discard]
    exact (queued_acquire hstamps r a timestamp).final h
  | acquireOrdered a resourceIds timestamp =>
    rw [ResourceOp.call, final_discard]
    refine Ends.final (P := Queued known earlier) ?_
    refine ends_mapM (fun _ _ t => Queued known earlier t) h ?_
    intro _ _ r _ t _ ht
    rw [ends_bind]
    exact queued_acquire hstamps r a timestamp t ht
  | release r a timestamp =>
    rw [ResourceOp.call, final_discard]
    exact (queued_release hstamps r a timestamp).final h
  | sweepTimeouts now timeoutSec =>
    rw [ResourceOp.call, final_discard]
    refine Ends.final (P := Queued known earlier) ?_
    rw [sweepTimeouts, ends_bind, ends_get, ends_bind]
    refine ends_orRaise (fun utc _ => ?_) (fun _ _ => h)
    rw [ends_bind]
    refine ends_mapM (fun _ _ t => Queued known earlier t) h ?_
    intro _ _ resource _ t _ ht
    exact queued_sweepResource hstamps now utc _ resource t ht

lemma queued_run (h : Queued known earlier manager) (ops : List ResourceOp) :
    Queued known earlier (runAll (ResourceOp.step env) manager ops) :=
  (guarded_of_forall (fun _ _ => trivial) manager ops).invariant (Queued known earlier)
    (fun _ op hq _ => queued_step hstamps op hq) h

end Calls

lemma queued_init (env : Environment) (resourceIds : List String) (timeoutSec : Floating)
    (ticks : ℕ) :
    Queued (fun r => decide (r ∈ resourceIds)) [] (init env resourceIds timeoutSec ticks) := by
  have hshows := shows_init env resourceIds timeoutSec ticks
  refine ⟨⟨List.nil_prefix, ?_⟩, _, hshows⟩
  intro r slot hslot
  obtain ⟨howner, hqueue, -⟩ := hshows.viewed hslot
  refine ⟨trivial, ?_⟩
  rw [ResourceSlot.line, howner, hqueue]
  rfl

lemma Queued.exists_slot (h : Queued known earlier manager) {k : ℕ}
    (ha : (manager.waitersOf r)[k]? = some a) :
    known r = true ∧ ∃ slot, manager.slotOf r = some slot ∧ slot.queue = manager.waitersOf r := by
  obtain ⟨-, locks, hlocks⟩ := h
  have hr : known r = true := by
    rw [← hlocks.queued r]
    rw [waitersOf] at ha
    cases hqueue : manager.waitQueues.get? r with
    | none => simp [hqueue] at ha
    | some queue => rfl
  obtain ⟨slot, hslot⟩ := slot_of_known hlocks hr
  obtain ⟨-, hqueue, -⟩ := hlocks.viewed hslot
  exact ⟨hr, slot, hslot, hqueue.trans (hlocks.queues r).symm⟩

lemma Queued.taken (h : Queued known earlier manager) (hslot : manager.slotOf r = some slot)
    (hwaiting : slot.queue ≠ []) : slot.line.taken = true := by
  obtain ⟨-, locks, hlocks⟩ := h
  obtain ⟨howner, hqueue, -⟩ := hlocks.viewed hslot
  rw [ResourceSlot.line, howner]
  exact (locks r).held (hqueue ▸ hwaiting)

end ResourceLockManager

lemma says_of_grant {r a : String} {event : ResourceEvent} (h : turnOf r event = .grant a) :
    event.Says .resourceAcquired r a := by
  rw [turnOf] at h
  split_ifs at h with hr
  split at h
  · rename_i hkind hrobot
    exact ⟨hkind, hr, by rw [hrobot, Turn.grant.inj h]⟩
  · cases h
  · cases h
  · cases h

open ResourceLockManager in
/-- A robot with `k` others before it in the queue of a resource has moved up by one place with each
release of the resource, and it is granted the resource after release `k + 1`: whatever is called in
between, by whomever, and whether the releases are explicit or timeouts. -/
theorem waiter_granted_after_its_place (env : Environment)
    (hstamps : ∀ moment, env.utcIsoformat moment ≠ "") (resourceIds : List String)
    (timeoutSec : Floating) (ticks : ℕ) (ops later : List ResourceOp) (r a : String) (k : ℕ) :
    let manager := runAll (ResourceOp.step env) (init env resourceIds timeoutSec ticks) ops
    let after := runAll (ResourceOp.step env) manager later
    (manager.waitersOf r)[k]? = some a →
      ∃ events, after.eventSink = manager.eventSink ++ events ∧
        (releases r events ≤ k → (after.waitersOf r)[k - releases r events]? = some a) ∧
        (k < releases r events → ∃ before granted rest, events = before ++ granted :: rest ∧
          granted.Says .resourceAcquired r a ∧ releases r before = k + 1) := by
  intro manager after ha
  set known : String → Bool := fun r => decide (r ∈ resourceIds)
  have hmanager : Queued known [] manager :=
    queued_run hstamps (queued_init env resourceIds timeoutSec ticks) ops
  have hstart : Queued known manager.eventSink manager :=
    ⟨⟨List.prefix_refl _, hmanager.1.told⟩, hmanager.2⟩
  have hafter : Queued known manager.eventSink after := queued_run hstamps hstart later
  obtain ⟨events, hlog⟩ := hafter.1.extends_log
  obtain ⟨hr, slot, hslot, hqueue⟩ := hmanager.exists_slot ha
  obtain ⟨locks', hlocks'⟩ := hafter.2
  obtain ⟨slot', hslot'⟩ := slot_of_known hlocks' hr
  have hqueue' : slot'.queue = after.waitersOf r := by
    obtain ⟨-, hsame, -⟩ := hlocks'.viewed hslot'
    exact hsame.trans (hlocks'.queues r).symm
  obtain ⟨-, hline⟩ := hmanager.1.told r slot hslot
  obtain ⟨hfair', hline'⟩ := hafter.1.told r slot' hslot'
  rw [← hlog, turns, List.map_append, ← turns, ← turns] at hfair' hline'
  rw [guarded_append, hline] at hfair'
  rw [runAll_append, hline] at hline'
  have ha' : slot.line.waiting[k]? = some a := (congrArg (·[k]?) hqueue).trans ha
  have htaken : slot.line.taken = true := by
    refine hmanager.taken hslot fun hnil => ?_
    rw [hnil] at hqueue
    rw [← hqueue] at ha
    cases ha
  obtain ⟨hwaits, hserved⟩ := Line.served_in_turn hfair'.2 htaken
    (fun hne => by rw [hline'] at hne ⊢; exact hafter.taken hslot' hne) ha'
  rw [frees_turns, hline'] at hwaits
  rw [frees_turns] at hserved
  refine ⟨events, hlog.symm, ?_, ?_⟩
  · rw [← hqueue']
    exact hwaits
  · intro hmany
    obtain ⟨before, rest, hsplit, hcount⟩ := hserved hmany
    obtain ⟨before', rest', rfl, rfl, hrest⟩ := List.map_eq_append_iff.mp hsplit
    obtain ⟨granted, rest'', rfl, hgrant, -⟩ := List.map_eq_cons_iff.mp hrest
    exact ⟨before', granted, rest'', rfl, says_of_grant hgrant, (frees_turns r before') ▸ hcount⟩

def queuedAtAisle : List ResourceOp :=
  [.acquire "narrow_aisle_1" "robot_1" none, .acquire "narrow_aisle_1" "robot_2" none,
    .acquire "narrow_aisle_1" "robot_3" none]

def servedAtAisle : List ResourceOp :=
  [.release "narrow_aisle_1" "robot_1" none, .acquire "narrow_aisle_1" "robot_1" none,
    .sweepTimeouts ⟨true, 200000000⟩ none]

open ResourceLockManager in
theorem waiter_granted_after_its_place_of_third :
    let manager := runAll (ResourceOp.step still)
      (init still defaultDemoResources defaultResourceTimeoutSec 0) queuedAtAisle
    let after := runAll (ResourceOp.step still) manager servedAtAisle
    ∃ before granted rest, after.eventSink = manager.eventSink ++ before ++ granted :: rest ∧
      granted.Says .resourceAcquired "narrow_aisle_1" "robot_3" ∧
      releases "narrow_aisle_1" before = 2 := by
  intro manager after
  have hstamp : "1970-01-01T00:00:00+00:00" ≠ "" := by decide
  obtain ⟨events, hlog, -, hserved⟩ := waiter_granted_after_its_place still (fun _ => hstamp)
    defaultDemoResources defaultResourceTimeoutSec 0 queuedAtAisle servedAtAisle "narrow_aisle_1"
    "robot_3" 1 (by decide +kernel)
  have hcount : releases "narrow_aisle_1" (after.eventSink.drop manager.eventSink.length) = 2 := by
    decide +kernel
  rw [hlog, List.drop_left] at hcount
  obtain ⟨before, granted, rest, rfl, hgranted, htwo⟩ := hserved (by omega)
  exact ⟨before, granted, rest, by rw [hlog, List.append_assoc], hgranted, htwo⟩

end Fleet
