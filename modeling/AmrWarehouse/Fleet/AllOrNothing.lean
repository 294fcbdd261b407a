import AmrWarehouse.Fleet.EventLog
import AmrWarehouse.Fleet.Fifo
import AmrWarehouse.Fleet.LockOrder

/-! What a request for several resources leaves behind when one of them is unknown. -/

namespace Fleet

open Library

namespace ResourceLockManager

def Claims (manager : ResourceLockManager) (robotId resourceId : String) : Prop :=
  manager.ownerOf resourceId = some robotId ∨ robotId ∈ manager.waitersOf resourceId

instance (manager : ResourceLockManager) (robotId resourceId : String) :
    Decidable (manager.Claims robotId resourceId) := inferInstanceAs (Decidable (_ ∨ _))

structure SameState (manager manager' : ResourceLockManager) : Prop where
  owners : ∀ r, manager'.ownerOf r = manager.ownerOf r
  queues : ∀ r, manager'.waitersOf r = manager.waitersOf r
  log : manager'.eventSink = manager.eventSink

variable {env : Environment} {manager manager' : ResourceLockManager} {known : String → Bool}
variable {locks : String → FifoLock String} {r a : String}

lemma Unchanged.sameState (h : Unchanged manager manager') : SameState manager manager' where
  owners r := by rw [ownerOf, ownerOf, h.1.1]
  queues r := by rw [waitersOf, waitersOf, h.1.2]
  log := h.2

lemma Unchanged.trans {manager'' : ResourceLockManager} (h : Unchanged manager manager')
    (h' : Unchanged manager' manager'') : Unchanged manager manager'' :=
  ⟨⟨h'.1.1.trans h.1.1, h'.1.2.trans h.1.2⟩, h'.2.trans h.2⟩

lemma Unchanged.shows (h : Unchanged manager manager') (hshows : manager.Shows known locks) :
    manager'.Shows known locks :=
  Holds.same hshows h.1

lemma unchanged_orNow (timestamp : Option String) :
    Ends (orNow env timestamp) manager (fun _ t => Unchanged manager t) (fun _ => False) := by
  cases timestamp with
  | none => exact ⟨⟨rfl, rfl⟩, rfl⟩
  | some ts =>
    rw [orNow]
    split_ifs
    · exact ⟨⟨rfl, rfl⟩, rfl⟩
    · exact ⟨⟨rfl, rfl⟩, rfl⟩

lemma unchanged_acquire (h : manager.Shows known locks) (hr : known r = true)
    (hclaims : manager.Claims a r) (timestamp : Option String) :
    Ends (acquire env r a timestamp) manager (fun _ t => Unchanged manager t)
      (fun _ => False) := by
  rw [acquire, ends_bind]
  refine (ends_getResource h hr).mono ?_ (fun _ he => he)
  rintro resource _ ⟨rfl, howner⟩
  rw [ends_bind]
  refine (unchanged_orNow timestamp).mono ?_ (fun _ he => he)
  intro ts t ht
  rcases hclaims with hown | hwait
  · rw [h.owners r] at hown
    rw [if_pos (howner.trans hown), ends_pure]
    exact ht
  · rw [h.queues r] at hwait
    have htaken := (locks r).held (List.ne_nil_of_mem hwait)
    have hne : resource.ownerRobotId ≠ some a := fun ho =>
      (locks r).apart a (howner.symm.trans ho) hwait
    have hfree : ¬ resource.isFree = true := by
      rw [ResourceRecord.isFree, howner]
      simpa using Option.isSome_iff_ne_none.mp htaken
    rw [if_neg hne, if_neg hfree, ends_bind]
    refine (ends_waitQueue (ht.shows h) hr).mono ?_ (fun _ he => he)
    rintro queue _ ⟨rfl, rfl⟩
    rw [ends_bind]
    apply ends_whenever
    · exact fun hnew => absurd hwait hnew
    · exact fun _ => ht

lemma reachedBy_eq (h : manager.Shows known locks) {ids seen rest : List String} {x : String}
    (hids : lockOrder ids = seen ++ x :: rest) (hx : known x = false)
    (hknown : ∀ r ∈ seen, known r = true) : manager.reachedBy ids = seen := by
  have hkeys : ∀ r ∈ seen, decide (r ∈ manager.resources.keys) = true := by
    intro r hr
    rw [decide_eq_true_eq, Dict.mem_keys, h.knows r, hknown r hr]
  have hstop : ¬ decide (x ∈ manager.resources.keys) = true := by
    rw [decide_eq_true_eq, Dict.mem_keys, h.knows x, hx]
    simp
  rw [reachedBy, hids, List.takeWhile_append_of_pos hkeys, List.takeWhile_cons, if_neg hstop,
    List.append_nil]

lemma unchanged_acquireOrdered (h : manager.Shows known locks) {ids : List String}
    (hclaims : ∀ r ∈ manager.reachedBy ids, manager.Claims a r) (timestamp : Option String) :
    Unchanged manager (final (acquireOrdered env a ids timestamp) manager) := by
  refine Ends.final (P := Unchanged manager) ?_
  refine (ends_mapM (fun seen _ t => Unchanged manager t ∧ ∀ r ∈ seen, known r = true)
    ⟨unchanged_refl manager, by simp⟩ ?_).mono (fun _ _ ht => ht.1) (fun _ he => he)
  rintro seen _ x rest t hids ⟨ht, hseen⟩
  rw [ends_bind]
  cases hx : known x with
  | false =>
    refine (ends_acquire_unknown (ht.shows h) hx timestamp).mono (fun _ _ hq => hq.elim) ?_
    rintro _ rfl
    exact ht
  | true =>
    have hknown : ∀ r ∈ seen ++ [x], known r = true := by
      intro r hr
      rcases List.mem_append.mp hr with hold | hnew
      · exact hseen r hold
      · rw [List.mem_singleton.mp hnew, hx]
    have hreached := mem_reachedBy h ⟨rest, by rw [hids]; simp⟩ hknown x (by simp)
    have hclaimed : t.Claims a x := by
      rw [Claims, ht.sameState.owners, ht.sameState.queues]
      exact hclaims x hreached
    refine (unchanged_acquire (ht.shows h) hx hclaimed timestamp).mono ?_ (fun _ he => he.elim)
    intro result u hu
    rw [ends_pure]
    exact ⟨ht.trans hu, hknown⟩

variable (env a) in
lemma acquireOrdered_unknown (h : manager.Shows known locks) {ids : List String}
    (hunknown : ∃ r ∈ ids, known r = false) (timestamp : Option String) :
    raises (acquireOrdered env a ids timestamp) manager = true ∧
      (final (acquireOrdered env a ids timestamp) manager).Shows known
        (FifoLock.acquireAll a (manager.reachedBy ids) locks) := by
  obtain ⟨r, hr, hfalse⟩ := hunknown
  have hmem : r ∈ lockOrder ids := by rwa [lockOrder, List.mem_insertionSort, List.mem_dedup]
  have hends : Ends (acquireOrdered env a ids timestamp) manager (fun _ _ => False)
      (fun t => t.Shows known (FifoLock.acquireAll a (manager.reachedBy ids) locks)) := by
    refine (ends_acquireOrdered h ids timestamp).mono ?_ ?_
    · rintro _ t ⟨hknown, -⟩
      rw [hknown r hmem] at hfalse
      cases hfalse
    · rintro t ⟨seen, x, rest, hids, hx, hknown, ht⟩
      rwa [reachedBy_eq h hids hx hknown]
  constructor
  · by_contra hreturns
    obtain ⟨_, hq⟩ := hends.of_returns (by simpa using hreturns)
    exact hq
  · rcases hends.final_or with ⟨_, hq⟩ | he
    · exact hq.elim
    · exact he

end ResourceLockManager

open ResourceLockManager

/-- A request with an unknown resource changes nothing just when the robot had a claim on all the
resources that come before it. -/
theorem acquireOrdered_all_or_nothing_iff (env : Environment) (resourceIds : List String)
    (timeoutSec : Floating) (ticks : ℕ) (ops : List ResourceOp) (robotId : String)
    (ids : List String) (timestamp : Option String) (hunknown : ∃ r ∈ ids, r ∉ resourceIds) :
    let manager := runAll (ResourceOp.step env) (init env resourceIds timeoutSec ticks) ops
    let after := final (acquireOrdered env robotId ids timestamp) manager
    raises (acquireOrdered env robotId ids timestamp) manager = true ∧
      (SameState manager after ↔ ∀ r ∈ manager.reachedBy ids, manager.Claims robotId r) := by
  intro manager after
  obtain ⟨locks, hlocks⟩ : ∃ locks, manager.Shows (fun r => decide (r ∈ resourceIds)) locks :=
    run_shows ⟨_, shows_init env resourceIds timeoutSec ticks⟩ ops
  have hunknown' : ∃ r ∈ ids, decide (r ∈ resourceIds) = false := by simpa using hunknown
  obtain ⟨hraises, hafter⟩ := acquireOrdered_unknown env robotId hlocks hunknown' timestamp
  refine ⟨hraises, fun hsame r hr => ?_, fun hclaims => ?_⟩
  · rw [Claims, ← hsame.owners r, ← hsame.queues r, hafter.owners r, hafter.queues r,
      Function.comp_apply, Function.comp_apply, FifoLock.acquireAll, if_pos hr]
    exact FifoLock.acquire_holds_or_waits _ _
  · exact (unchanged_acquireOrdered hlocks hclaims timestamp).sameState

/-- The robot has the pickup station already, and asks again. -/
theorem acquireOrdered_all_or_nothing_of_claimed :
    let manager := runAll (ResourceOp.step still)
      (init still defaultDemoResources defaultResourceTimeoutSec 0)
      [.acquire "pickup_station_a" "robot_01" none]
    SameState manager
      (final (acquireOrdered still "robot_01" ["zone_9", "pickup_station_a"] none) manager) :=
  (acquireOrdered_all_or_nothing_iff still defaultDemoResources defaultResourceTimeoutSec 0
    [.acquire "pickup_station_a" "robot_01" none] "robot_01" ["zone_9", "pickup_station_a"] none
    ⟨"zone_9", by decide, by decide⟩).2.mpr (by decide +kernel)

/-- The aisle stays taken by a robot that was told of an error. -/
theorem acquireOrdered_keeps_aisle :
    raises (acquireOrdered still "robot_01" ["zone_9", "narrow_aisle_1"] none) demoManager = true ∧
      ¬ SameState demoManager
        (final (acquireOrdered still "robot_01" ["zone_9", "narrow_aisle_1"] none)
          demoManager) := by
  refine ⟨by decide +kernel, fun h => ?_⟩
  have howner := h.owners "narrow_aisle_1"
  exact absurd howner (by decide +kernel)

end Fleet
