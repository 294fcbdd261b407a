import AmrWarehouse.Library.FifoLock
import AmrWarehouse.Fleet.Resources

/-! Every call of the lock manager is steps of queued locks, one lock for each resource. -/

namespace Fleet

open Library

namespace ResourceLockManager

def ownerOf (manager : ResourceLockManager) (resourceId : String) : Option String :=
  (manager.resources.get? resourceId).bind ResourceRecord.ownerRobotId

def waitersOf (manager : ResourceLockManager) (resourceId : String) : List String :=
  (manager.waitQueues.get? resourceId).getD []

structure Holds (manager : ResourceLockManager) (known : String → Bool)
    (owner : String → Option String) (queue : String → List String) : Prop where
  owners : ∀ r, manager.ownerOf r = owner r
  queues : ∀ r, manager.waitersOf r = queue r
  knows : ∀ r, (manager.resources.get? r).isSome = known r
  queued : ∀ r, (manager.waitQueues.get? r).isSome = known r
  named : ∀ r resource, manager.resources.get? r = some resource → resource.resourceId = r

def SameLocks (manager manager' : ResourceLockManager) : Prop :=
  manager'.resources = manager.resources ∧ manager'.waitQueues = manager.waitQueues

variable {env : Environment} {manager manager' : ResourceLockManager} {known : String → Bool}
variable {owner : String → Option String} {queue : String → List String} {r a : String}

section Tables

lemma Holds.same (h : manager.Holds known owner queue) (hs : SameLocks manager manager') :
    manager'.Holds known owner queue where
  owners j := by rw [ownerOf, hs.1]; exact h.owners j
  queues j := by rw [waitersOf, hs.2]; exact h.queues j
  knows j := by rw [hs.1]; exact h.knows j
  queued j := by rw [hs.2]; exact h.queued j
  named j := by rw [hs.1]; exact h.named j

lemma ends_orNow (timestamp : Option String) :
    Ends (orNow env timestamp) manager (fun _ t => SameLocks manager t) (fun _ => False) := by
  cases timestamp with
  | none => exact ⟨rfl, rfl⟩
  | some ts =>
    rw [orNow]
    split
    · exact ⟨rfl, rfl⟩
    · exact ⟨rfl, rfl⟩

lemma ends_emit (event : ResourceEventKind) (robotId reason timestamp : Option String) :
    Ends (emit env event r robotId reason timestamp) manager (fun _ t => SameLocks manager t)
      (fun _ => False) := by
  rw [emit, ends_bind]
  refine (ends_orNow timestamp).mono ?_ (fun _ he => he)
  intro ts t ht
  rw [ends_modify]
  exact ht

lemma ends_getResource (h : manager.Holds known owner queue) (hr : known r = true) :
    Ends (getResource r) manager
      (fun resource t => t = manager ∧ resource.ownerRobotId = owner r) (fun _ => False) := by
  rw [← h.knows r] at hr
  obtain ⟨resource, hget⟩ := Option.isSome_iff_exists.mp hr
  rw [getResource, ends_bind, ends_get, hget]
  exact ⟨rfl, by rw [← h.owners r, ownerOf, hget, Option.bind_some]⟩

lemma ends_getResource_unknown (h : manager.Holds known owner queue) (hr : known r = false) :
    Ends (getResource r) manager (fun _ _ => False) (fun t => t = manager) := by
  rw [← h.knows r, Option.isSome_eq_false_iff, Option.isNone_iff_eq_none] at hr
  rw [getResource, ends_bind, ends_get, hr]
  rfl

lemma ends_waitQueue (h : manager.Holds known owner queue) (hr : known r = true) :
    Ends (waitQueue r) manager (fun q t => t = manager ∧ q = queue r) (fun _ => False) := by
  rw [← h.queued r] at hr
  obtain ⟨q, hget⟩ := Option.isSome_iff_exists.mp hr
  rw [waitQueue, ends_bind, ends_get, hget]
  exact ⟨rfl, by rw [← h.queues r, waitersOf, hget, Option.getD_some]⟩

lemma ends_replaceResource (h : manager.Holds known owner queue) (hr : known r = true)
    (o acquiredAt : Option String) (ts : String) :
    Ends (replaceResource ⟨r, o, acquiredAt, ts⟩) manager
      (fun _ t => t.Holds known (Function.update owner r o) queue) (fun _ => False) := by
  rw [replaceResource, ends_modify]
  refine ⟨?_, h.queues, ?_, h.queued, ?_⟩
  · intro j
    rw [ownerOf, Dict.get?_set, Function.update_apply]
    split
    · rfl
    · exact h.owners j
  · intro j
    rw [Dict.get?_set]
    split
    · rename_i hj
      rw [hj, hr, Option.isSome_some]
    · exact h.knows j
  · intro j resource hj
    rw [Dict.get?_set] at hj
    split at hj
    · rename_i hjr
      rw [← Option.some.inj hj, hjr]
    · exact h.named j resource hj

lemma ends_setWaitQueue (h : manager.Holds known owner queue) (hr : known r = true)
    (q : List String) :
    Ends (setWaitQueue r q) manager
      (fun _ t => t.Holds known owner (Function.update queue r q)) (fun _ => False) := by
  rw [setWaitQueue, ends_modify]
  refine ⟨h.owners, ?_, h.knows, ?_, h.named⟩
  · intro j
    rw [waitersOf, Dict.get?_set, Function.update_apply]
    split
    · rfl
    · exact h.queues j
  · intro j
    rw [Dict.get?_set]
    split
    · rename_i hj
      rw [hj, hr, Option.isSome_some]
    · exact h.queued j

end Tables

section Acquire

lemma ends_acquire_unknown (h : manager.Holds known owner queue) (hr : known r = false)
    (timestamp : Option String) :
    Ends (acquire env r a timestamp) manager (fun _ _ => False) (fun t => t = manager) := by
  rw [acquire, ends_bind]
  exact (ends_getResource_unknown h hr).mono (fun _ _ hq => hq.elim) (fun _ he => he)

lemma ends_acquire_owned (h : manager.Holds known owner queue) (hr : known r = true)
    (ho : owner r = some a) (timestamp : Option String) :
    Ends (acquire env r a timestamp) manager
      (fun result t => result = .alreadyOwned ∧ t.Holds known owner queue) (fun _ => False) := by
  rw [acquire, ends_bind]
  refine (ends_getResource h hr).mono ?_ (fun _ he => he)
  rintro resource _ ⟨rfl, howner⟩
  rw [ends_bind]
  refine (ends_orNow timestamp).mono ?_ (fun _ he => he)
  intro ts t ht
  rw [if_pos (howner.trans ho), ends_pure]
  exact ⟨rfl, h.same ht⟩

lemma ends_acquire_free (h : manager.Holds known owner queue) (hr : known r = true)
    (ho : owner r = none) (timestamp : Option String) :
    Ends (acquire env r a timestamp) manager
      (fun result t => result = .acquired ∧ t.Holds known (Function.update owner r (some a)) queue)
      (fun _ => False) := by
  rw [acquire, ends_bind]
  refine (ends_getResource h hr).mono ?_ (fun _ he => he)
  rintro resource _ ⟨rfl, howner⟩
  rw [ho] at howner
  rw [ends_bind]
  refine (ends_orNow timestamp).mono ?_ (fun _ he => he)
  intro ts t ht
  have hfree : resource.isFree = true := by simp [ResourceRecord.isFree, howner]
  rw [howner, if_neg (by simp), if_pos hfree, ends_bind]
  refine (ends_replaceResource (h.same ht) hr _ _ _).mono ?_ (fun _ he => he)
  intro _ u hu
  rw [ends_bind]
  refine (ends_emit _ _ _ _).mono ?_ (fun _ he => he)
  intro _ v hv
  rw [ends_pure]
  exact ⟨rfl, hu.same hv⟩

lemma ends_acquire_taken (h : manager.Holds known owner queue) (hr : known r = true)
    (ho : owner r ≠ none) (hne : owner r ≠ some a) (timestamp : Option String) :
    Ends (acquire env r a timestamp) manager
      (fun result t => result = .waiting ∧ t.Holds known owner
        (Function.update queue r (if a ∈ queue r then queue r else queue r ++ [a])))
      (fun _ => False) := by
  rw [acquire, ends_bind]
  refine (ends_getResource h hr).mono ?_ (fun _ he => he)
  rintro resource _ ⟨rfl, howner⟩
  rw [ends_bind]
  refine (ends_orNow timestamp).mono ?_ (fun _ he => he)
  intro ts t ht
  have htaken : ¬ resource.isFree = true := by
    simpa [ResourceRecord.isFree, howner] using ho
  rw [howner, if_neg hne, if_neg htaken, ends_bind]
  refine (ends_waitQueue (h.same ht) hr).mono ?_ (fun _ he => he)
  rintro q _ ⟨rfl, rfl⟩
  rw [ends_bind]
  apply ends_whenever
  · intro hq
    rw [if_neg hq, ends_bind]
    refine (ends_setWaitQueue (h.same ht) hr _).mono ?_ (fun _ he => he)
    intro _ u hu
    refine (ends_emit _ _ _ _).mono ?_ (fun _ he => he)
    intro _ v hv
    rw [ends_pure]
    exact ⟨rfl, hu.same hv⟩
  · intro hq
    rw [ends_pure, if_pos (not_not.mp hq), Function.update_eq_self]
    exact ⟨rfl, h.same ht⟩

end Acquire

lemma ends_handOver (h : manager.Holds known owner queue) (hr : known r = true)
    (ho : owner r = none) (ts : String) :
    Ends (handOver env r ts (queue r)) manager
      (fun _ t => t.Holds known (Function.update owner r (queue r).head?)
        (Function.update queue r (queue r).tail))
      (fun _ => False) := by
  cases hq : queue r with
  | nil =>
    have howner : Function.update owner r none = owner := by
      rw [← ho]
      exact Function.update_eq_self r owner
    have hqueue : Function.update queue r [] = queue := by
      rw [← hq]
      exact Function.update_eq_self r queue
    rw [handOver, ends_pure, List.head?_nil, List.tail_nil, howner, hqueue]
    exact h
  | cons b rest =>
    rw [handOver, ends_bind, List.head?_cons, List.tail_cons]
    refine (ends_setWaitQueue h hr rest).mono ?_ (fun _ he => he)
    intro _ t ht
    rw [ends_bind]
    refine (ends_acquire_free ht hr ho _).mono ?_ (fun _ he => he)
    rintro result u ⟨rfl, hu⟩
    rw [ends_pure]
    exact hu

lemma ends_release_refused (h : manager.Holds known owner queue) (ho : owner r ≠ some a)
    (timestamp : Option String) :
    Ends (release env r a timestamp) manager (fun _ _ => False) (fun t => t = manager) := by
  rw [release, ends_bind]
  cases hr : known r with
  | false => exact (ends_getResource_unknown h hr).mono (fun _ _ hq => hq.elim) (fun _ he => he)
  | true =>
    refine (ends_getResource h hr).mono ?_ (fun _ he => he.elim)
    rintro resource _ ⟨rfl, howner⟩
    rw [if_pos (by rwa [howner]), ends_throw]

lemma known_of_owner (h : manager.Holds known owner queue) (ho : owner r = some a) :
    known r = true := by
  rw [← h.owners r, ownerOf] at ho
  rw [← h.knows r]
  cases hget : manager.resources.get? r with
  | none => simp [hget] at ho
  | some _ => rfl

lemma ends_release (h : manager.Holds known owner queue) (ho : owner r = some a)
    (timestamp : Option String) :
    Ends (release env r a timestamp) manager
      (fun _ t => t.Holds known (Function.update owner r (queue r).head?)
        (Function.update queue r (queue r).tail))
      (fun _ => False) := by
  have hr := known_of_owner h ho
  rw [release, ends_bind]
  refine (ends_getResource h hr).mono ?_ (fun _ he => he)
  rintro resource _ ⟨rfl, howner⟩
  rw [if_neg (by simp [howner, ho]), ends_bind]
  refine (ends_orNow timestamp).mono ?_ (fun _ he => he)
  intro ts t ht
  rw [ends_bind]
  refine (ends_replaceResource (h.same ht) hr _ _ _).mono ?_ (fun _ he => he)
  intro _ u hu
  rw [ends_bind]
  refine (ends_emit _ _ _ _).mono ?_ (fun _ he => he)
  intro _ v hv
  rw [ends_bind]
  refine (ends_waitQueue (hu.same hv) hr).mono ?_ (fun _ he => he)
  rintro q _ ⟨rfl, rfl⟩
  rw [ends_bind]
  refine (ends_handOver (hu.same hv) hr (by simp) ts).mono ?_ (fun _ he => he)
  intro _ w hw
  rw [Function.update_idem] at hw
  refine (ends_getResource hw hr).mono ?_ (fun _ he => he)
  rintro _ _ ⟨rfl, -⟩
  exact hw

def Shows (manager : ResourceLockManager) (known : String → Bool)
    (locks : String → FifoLock String) : Prop :=
  manager.Holds known (FifoLock.owner ∘ locks) (FifoLock.queue ∘ locks)

section Locks

variable {locks : String → FifoLock String}

lemma Shows.update {l : FifoLock String}
    (h : manager.Holds known (Function.update (FifoLock.owner ∘ locks) r l.owner)
      (Function.update (FifoLock.queue ∘ locks) r l.queue)) :
    manager.Shows known (Function.update locks r l) := by
  rw [Shows, Function.comp_update, Function.comp_update]
  exact h

lemma ends_acquire (h : manager.Shows known locks) (hr : known r = true)
    (timestamp : Option String) :
    Ends (acquire env r a timestamp) manager
      (fun result t => t.Shows known (Function.update locks r ((locks r).acquire a)) ∧
        (result = .waiting → a ∈ ((locks r).acquire a).queue))
      (fun _ => False) := by
  by_cases hfree : (locks r).owner = none
  · obtain ⟨ho, hq⟩ := FifoLock.acquire_of_free (a := a) hfree
    have hqueue : (FifoLock.queue ∘ locks) r = [] := FifoLock.queue_of_free hfree
    refine (ends_acquire_free h hr hfree timestamp).mono ?_ (fun _ he => he)
    rintro result t ⟨rfl, ht⟩
    refine ⟨Shows.update ?_, by simp⟩
    rwa [ho, hq, ← hqueue, Function.update_eq_self]
  · by_cases howner : (locks r).owner = some a
    · refine (ends_acquire_owned h hr howner timestamp).mono ?_ (fun _ he => he)
      rintro result t ⟨rfl, ht⟩
      refine ⟨?_, by simp⟩
      rwa [FifoLock.acquire_of_owner howner, Function.update_eq_self]
    · obtain ⟨ho, hq⟩ := FifoLock.acquire_of_taken hfree howner
      refine (ends_acquire_taken h hr hfree howner timestamp).mono ?_ (fun _ he => he)
      rintro result t ⟨rfl, ht⟩
      constructor
      · apply Shows.update
        rw [ho, hq]
        rwa [← Function.update_eq_self r (FifoLock.owner ∘ locks)] at ht
      · intro _
        rw [hq]
        split_ifs with hmem
        · exact hmem
        · simp

lemma ends_release_shows (h : manager.Shows known locks) (timestamp : Option String) :
    Ends (release env r a timestamp) manager
      (fun _ t => t.Shows known (Function.update locks r (locks r).release))
      (fun t => t = manager ∧ (locks r).owner ≠ some a) := by
  by_cases ho : (locks r).owner = some a
  · refine (ends_release h ho timestamp).mono ?_ (fun _ he => he.elim)
    intro _ t ht
    exact Shows.update ht
  · exact (ends_release_refused h ho timestamp).mono (fun _ _ hq => hq.elim)
      (fun _ he => ⟨he, ho⟩)

lemma ends_acquireOrdered (h : manager.Shows known locks) (resourceIds : List String)
    (timestamp : Option String) :
    Ends (acquireOrdered env a resourceIds timestamp) manager
      (fun results t => (∀ r ∈ lockOrder resourceIds, known r = true) ∧
        t.Shows known (FifoLock.acquireAll a (lockOrder resourceIds) locks) ∧
        ∀ p ∈ results, p.2 = .waiting →
          a ∈ (FifoLock.acquireAll a (lockOrder resourceIds) locks p.1).queue)
      (fun t => ∃ seen x rest, lockOrder resourceIds = seen ++ x :: rest ∧ known x = false ∧
        (∀ r ∈ seen, known r = true) ∧ t.Shows known (FifoLock.acquireAll a seen locks)) := by
  have hstart : FifoLock.acquireAll a [] locks = locks := by
    funext j
    simp [FifoLock.acquireAll]
  have hrun : Ends (acquireOrdered env a resourceIds timestamp) manager
      (fun results t => (∀ r ∈ lockOrder resourceIds, known r = true) ∧
        t.Shows known (FifoLock.acquireAll a (lockOrder resourceIds) locks) ∧
        ∀ p ∈ results, p.2 = .waiting →
          p.1 ∈ lockOrder resourceIds ∧ a ∈ ((locks p.1).acquire a).queue)
      (fun t => ∃ seen x rest, lockOrder resourceIds = seen ++ x :: rest ∧ known x = false ∧
        (∀ r ∈ seen, known r = true) ∧ t.Shows known (FifoLock.acquireAll a seen locks)) := by
    refine ends_mapM (fun seen (results : List (String × ResourceAcquireResult))
      (t : ResourceLockManager) => (∀ r ∈ seen, known r = true) ∧
        t.Shows known (FifoLock.acquireAll a seen locks) ∧
        ∀ p ∈ results, p.2 = .waiting → p.1 ∈ seen ∧ a ∈ ((locks p.1).acquire a).queue)
      ⟨by simp, by rwa [hstart], by simp⟩ ?_
    rintro seen results x rest t hids ⟨hknown, ht, hresults⟩
    rw [ends_bind]
    cases hx : known x with
    | false =>
      refine (ends_acquire_unknown ht hx timestamp).mono (fun _ _ hq => hq.elim) ?_
      rintro _ rfl
      exact ⟨seen, x, rest, hids, hx, hknown, ht⟩
    | true =>
      refine (ends_acquire ht hx timestamp).mono ?_ (fun _ he => he.elim)
      rintro result u ⟨hu, hwait⟩
      rw [ends_pure]
      refine ⟨?_, by rwa [← FifoLock.update_acquireAll], ?_⟩
      · intro r hr
        rcases List.mem_append.mp hr with hold | hnew
        · exact hknown r hold
        · rw [List.mem_singleton.mp hnew, hx]
      · intro p hp hpw
        rcases List.mem_append.mp hp with hold | hnew
        · obtain ⟨hmem, hq⟩ := hresults p hold hpw
          exact ⟨List.mem_append_left _ hmem, hq⟩
        · rw [List.mem_singleton] at hnew
          subst hnew
          refine ⟨by simp, ?_⟩
          have hq := hwait hpw
          rw [FifoLock.acquireAll] at hq
          split_ifs at hq with hseen
          · rwa [FifoLock.acquire_acquire] at hq
          · exact hq
  refine hrun.mono ?_ (fun _ he => he)
  rintro results t ⟨hknown, ht, hresults⟩
  refine ⟨hknown, ht, fun p hp hpw => ?_⟩
  obtain ⟨hmem, hq⟩ := hresults p hp hpw
  rwa [FifoLock.acquireAll, if_pos hmem]

lemma ends_ownershipAgeSec (now : Datetime) :
    Ends (ownershipAgeSec env r now) manager (fun _ t => t = manager) (fun t => t = manager) := by
  rw [ownershipAgeSec, ends_bind, getResource, ends_bind, ends_get]
  cases manager.resources.get? r with
  | none => rfl
  | some resource =>
    rw [ends_pure]
    cases resource.acquiredAt with
    | none => rfl
    | some acquiredAt =>
      rw [ends_bind]
      cases env.parseTimestamp acquiredAt with
      | error e => rfl
      | ok acquired =>
        rw [ends_orRaise_ok, ends_bind]
        cases totalSeconds now acquired with
        | error e => rfl
        | ok ageSec => rfl

lemma ends_sweepResource (h : manager.Shows known locks) (now : Datetime) (limit : Floating)
    (timestamp : String) (resource : ResourceRecord) :
    Ends (sweepResource env now limit timestamp resource) manager
      (fun _ t => t.Shows known locks ∨ t.Shows known
        (Function.update locks resource.resourceId (locks resource.resourceId).release))
      (fun t => t = manager) := by
  rw [sweepResource]
  cases resource.ownerRobotId with
  | none => exact Or.inl h
  | some owner =>
    cases resource.acquiredAt with
    | none => exact Or.inl h
    | some acquiredAt =>
      rw [ends_bind]
      refine (ends_ownershipAgeSec now).mono ?_ (fun _ he => he)
      rintro age _ rfl
      cases age with
      | none => exact Or.inl h
      | some ageSec =>
        dsimp only
        split_ifs
        · exact Or.inl h
        · rw [ends_bind]
          refine (ends_release_shows h _).mono ?_ (fun _ he => he.1)
          intro _ u hu
          rw [ends_bind]
          refine (ends_emit _ _ _ _).mono ?_ (fun _ he => he.elim)
          intro _ v hv
          exact Or.inr (Holds.same hu hv)

lemma nodup_sortedResources (h : manager.Shows known locks) :
    (manager.resources.sortedValues.map ResourceRecord.resourceId).Nodup := by
  rw [Dict.map_sortedValues h.named]
  exact Dict.nodup_sortedKeys _

lemma ends_sweepTimeouts (h : manager.Shows known locks) (now : Datetime)
    (timeoutSec : Option Floating) :
    Ends (sweepTimeouts env now timeoutSec) manager
      (fun _ t => ∃ locks', t.Shows known locks' ∧
        ∀ j, locks' j = locks j ∨ locks' j = (locks j).release)
      (fun t => ∃ locks', t.Shows known locks' ∧
        ∀ j, locks' j = locks j ∨ locks' j = (locks j).release) := by
  have hdistinct := nodup_sortedResources h
  rw [sweepTimeouts, ends_bind, ends_get, ends_bind]
  refine ends_orRaise (fun utc _ => ?_) (fun _ _ => ⟨locks, h, fun _ => Or.inl rfl⟩)
  rw [ends_bind]
  refine (ends_mapM (fun seen _ t => ∃ locks', t.Shows known locks' ∧
    (∀ j, locks' j = locks j ∨ locks' j = (locks j).release) ∧
    ∀ j ∉ seen.map ResourceRecord.resourceId, locks' j = locks j)
    ⟨locks, h, fun _ => Or.inl rfl, fun _ _ => rfl⟩ ?_).mono ?_ (fun _ he => he)
  · rintro seen _ x rest t hall ⟨locks', ht, hmoved, hlater⟩
    have hx : locks' x.resourceId = locks x.resourceId := by
      apply hlater
      rw [hall, List.map_append, List.map_cons, List.nodup_append] at hdistinct
      intro hmem
      exact hdistinct.2.2 _ hmem _ List.mem_cons_self rfl
    refine (ends_sweepResource ht now _ _ x).mono ?_ ?_
    · rintro _ u (hu | hu)
      · refine ⟨locks', hu, hmoved, fun j hj => hlater j ?_⟩
        exact fun hmem => hj (by simp only [List.map_append]; exact List.mem_append_left _ hmem)
      · refine ⟨_, hu, fun j => ?_, fun j hj => ?_⟩
        · by_cases hjx : j = x.resourceId
          · rw [hjx, Function.update_self, hx]
            exact Or.inr rfl
          · rw [Function.update_of_ne hjx]
            exact hmoved j
        · rw [List.map_append, List.mem_append, not_or] at hj
          rw [Function.update_of_ne (by simpa using hj.2)]
          exact hlater j hj.1
    · rintro _ rfl
      exact ⟨locks', ht, hmoved⟩
  · rintro _ t ⟨locks', ht, hmoved, -⟩
    exact ⟨locks', ht, hmoved⟩

lemma shows_init (env : Environment) (resourceIds : List String) (timeoutSec : Floating)
    (ticks : ℕ) :
    (init env resourceIds timeoutSec ticks).Shows (fun r => decide (r ∈ resourceIds))
      (fun _ => FifoLock.free) := by
  have hrecord := Dict.get?_ofList_map (fun resourceId =>
    (⟨resourceId, none, none, env.utcStamp (env.clock ticks)⟩ : ResourceRecord)) resourceIds
  have hqueue := Dict.get?_ofList_map (fun _ => ([] : List String)) resourceIds
  refine ⟨?_, ?_, ?_, ?_, ?_⟩
  · intro j
    rw [ownerOf, init, hrecord]
    split <;> rfl
  · intro j
    rw [waitersOf, init, hqueue]
    split <;> rfl
  · intro j
    rw [init, hrecord]
    split <;> simp_all
  · intro j
    rw [init, hqueue]
    split <;> simp_all
  · intro j resource hj
    rw [init, hrecord] at hj
    split at hj
    · rw [← Option.some.inj hj]
    · simp at hj

variable (env)

lemma step_acquire (h : manager.Shows known locks) (r a : String) (timestamp : Option String) :
    (ResourceOp.step env manager (.acquire r a timestamp)).Shows known locks ∨
      (ResourceOp.step env manager (.acquire r a timestamp)).Shows known
        (Function.update locks r ((locks r).acquire a)) := by
  rw [ResourceOp.step, ResourceOp.call, final_discard]
  cases hr : known r with
  | false =>
    rcases (ends_acquire_unknown h hr timestamp).final_or with ⟨_, hq⟩ | he
    · exact hq.elim
    · exact Or.inl (by rwa [he])
  | true =>
    rcases (ends_acquire h hr timestamp).final_or with ⟨_, hq⟩ | he
    · exact Or.inr hq.1
    · exact he.elim

lemma step_acquireOrdered (h : manager.Shows known locks) (a : String)
    (resourceIds : List String) (timestamp : Option String) :
    ∃ seen, seen <+: lockOrder resourceIds ∧ (∀ r ∈ seen, known r = true) ∧
      (ResourceOp.step env manager (.acquireOrdered a resourceIds timestamp)).Shows known
        (FifoLock.acquireAll a seen locks) := by
  rw [ResourceOp.step, ResourceOp.call, final_discard]
  rcases (ends_acquireOrdered h resourceIds timestamp).final_or with
    ⟨_, hknown, ht, -⟩ | ⟨seen, x, rest, hids, -, hknown, ht⟩
  · exact ⟨_, List.prefix_rfl, hknown, ht⟩
  · exact ⟨seen, ⟨x :: rest, hids.symm⟩, hknown, ht⟩

lemma step_release (h : manager.Shows known locks) (r a : String) (timestamp : Option String) :
    (ResourceOp.step env manager (.release r a timestamp)).Shows known locks ∨
      (ResourceOp.step env manager (.release r a timestamp)).Shows known
        (Function.update locks r (locks r).release) := by
  rw [ResourceOp.step, ResourceOp.call, final_discard]
  rcases (ends_release_shows h timestamp).final_or with ⟨_, hq⟩ | he
  · exact Or.inr hq
  · exact Or.inl (by rwa [he.1])

lemma step_sweepTimeouts (h : manager.Shows known locks) (now : Datetime)
    (timeoutSec : Option Floating) :
    ∃ locks', (ResourceOp.step env manager (.sweepTimeouts now timeoutSec)).Shows known locks' ∧
      ∀ j, locks' j = locks j ∨ locks' j = (locks j).release := by
  rw [ResourceOp.step, ResourceOp.call, final_discard]
  exact (ends_sweepTimeouts h now timeoutSec).final

lemma step_locks (h : manager.Shows known locks) (op : ResourceOp) :
    ∃ locks', (ResourceOp.step env manager op).Shows known locks' ∧
      ∀ j, FifoLock.Step (locks j) (locks' j) := by
  have hupdate : ∀ r (l : FifoLock String), FifoLock.Step (locks r) l →
      ∀ j, FifoLock.Step (locks j) (Function.update locks r l j) := by
    intro r l hl j
    rw [Function.update_apply]
    split_ifs with hj
    · exact hj ▸ hl
    · exact .stay _
  cases op with
  | acquire r a timestamp =>
    rcases step_acquire env h r a timestamp with hsame | hmoved
    · exact ⟨locks, hsame, fun j => .stay _⟩
    · exact ⟨_, hmoved, hupdate r _ (.acquire _ a)⟩
  | acquireOrdered a resourceIds timestamp =>
    obtain ⟨seen, -, -, hseen⟩ := step_acquireOrdered env h a resourceIds timestamp
    refine ⟨_, hseen, fun j => ?_⟩
    rw [FifoLock.acquireAll]
    split_ifs
    · exact .acquire _ a
    · exact .stay _
  | release r a timestamp =>
    rcases step_release env h r a timestamp with hsame | hmoved
    · exact ⟨locks, hsame, fun j => .stay _⟩
    · exact ⟨_, hmoved, hupdate r _ (.release _)⟩
  | sweepTimeouts now timeoutSec =>
    obtain ⟨locks', hshows, hmoved⟩ := step_sweepTimeouts env h now timeoutSec
    refine ⟨locks', hshows, fun j => ?_⟩
    rcases hmoved j with hsame | hreleased
    · exact hsame ▸ .stay _
    · exact hreleased ▸ .release _

end Locks

end ResourceLockManager

end Fleet
