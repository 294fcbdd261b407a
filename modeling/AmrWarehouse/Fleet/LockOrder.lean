import Mathlib.Data.String.Basic
import AmrWarehouse.Library.Runs
import AmrWarehouse.Library.WaitFor
import AmrWarehouse.Fleet.FleetRuns
import AmrWarehouse.Fleet.LockCalls

/-! Requests in lock order. A request that goes on past a resource it has to wait for can close a
cycle; one that does not, cannot. -/

namespace Fleet

open Library

namespace ResourceLockManager

def IsDeadlocked (manager : ResourceLockManager) : Prop :=
  Deadlocked manager.ownerOf manager.waitersOf

def claimsOf (manager : ResourceLockManager) (robotId : String) : List String :=
  manager.resources.keys.filter fun r =>
    manager.ownerOf r = some robotId ∨ robotId ∈ manager.waitersOf r

def reachedBy (manager : ResourceLockManager) (resourceIds : List String) : List String :=
  (lockOrder resourceIds).takeWhile (· ∈ manager.resources.keys)

/-- What a robot waits for, or would be made to wait for by a request. -/
def blockingOf (manager : ResourceLockManager) (robotId : String) (resourceIds : List String) :
    List String :=
  manager.resources.keys.filter fun r => robotId ∈ manager.waitersOf r ∨
    (r ∈ manager.reachedBy resourceIds ∧ manager.ownerOf r ≠ none ∧
      manager.ownerOf r ≠ some robotId)

/-- Robots ask only in lock order, and release only what they own. -/
def InLockOrder (manager : ResourceLockManager) : ResourceOp → Prop
  | .acquire _ _ _ => False
  | .acquireOrdered robotId resourceIds _ =>
    ∀ held ∈ manager.claimsOf robotId, ∀ r ∈ resourceIds, held ≤ r
  | .release resourceId robotId _ => manager.ownerOf resourceId = some robotId
  | .sweepTimeouts _ _ => True

/-- No request goes on past a resource that keeps its robot waiting. -/
def StopsAtWait (manager : ResourceLockManager) : ResourceOp → Prop
  | .acquireOrdered robotId resourceIds _ =>
    ∀ wanted ∈ manager.blockingOf robotId resourceIds,
      ∀ r ∈ manager.reachedBy resourceIds, r ≤ wanted
  | _ => True

instance (manager : ResourceLockManager) (op : ResourceOp) :
    Decidable (manager.InLockOrder op) := by
  cases op <;> simp only [InLockOrder] <;> infer_instance

instance (manager : ResourceLockManager) (op : ResourceOp) :
    Decidable (manager.StopsAtWait op) := by
  cases op <;> simp only [StopsAtWait] <;> infer_instance

/-- Every robot waits for at most one resource, and owns only smaller ones. -/
structure Ascending (locks : String → FifoLock String) : Prop where
  below : ∀ a held wanted, (locks held).owner = some a → a ∈ (locks wanted).queue → held < wanted
  single : ∀ a wanted wanted', a ∈ (locks wanted).queue → a ∈ (locks wanted').queue →
    wanted = wanted'

variable {env : Environment} {manager : ResourceLockManager} {known : String → Bool}
variable {locks locks' : String → FifoLock String} {r a b : String}

lemma ascending_free : Ascending (fun _ => FifoLock.free) where
  below _ _ _ ho _ := by simp [FifoLock.free] at ho
  single _ _ _ hq _ := by simp [FifoLock.free] at hq

lemma Ascending.released (h : Ascending locks)
    (hmoved : ∀ j, locks' j = locks j ∨ locks' j = (locks j).release) : Ascending locks' := by
  have hqueue : ∀ c j, c ∈ (locks' j).queue → c ∈ (locks j).queue := by
    intro c j hc
    rcases hmoved j with hj | hj
    · rwa [hj] at hc
    · rw [hj] at hc
      exact List.mem_of_mem_tail hc
  constructor
  · intro c held wanted ho hq
    rcases hmoved held with hheld | hheld
    · rw [hheld] at ho
      exact h.below c held wanted ho (hqueue c wanted hq)
    · rw [hheld] at ho
      have hwaited : c ∈ (locks held).queue := List.mem_of_mem_head? ho
      have hsame := h.single c held wanted hwaited (hqueue c wanted hq)
      subst hsame
      rw [hheld] at hq
      exact ((locks held).release.apart c ho hq).elim
  · exact fun c wanted wanted' hw hw' => h.single c _ _ (hqueue c _ hw) (hqueue c _ hw')

lemma owner_acquireAll_other (hb : b ≠ a) (seen : List String) (j : String) :
    (FifoLock.acquireAll a seen locks j).owner = some b ↔ (locks j).owner = some b := by
  rw [FifoLock.acquireAll]
  split_ifs
  · exact FifoLock.acquire_owner_other hb
  · exact Iff.rfl

lemma mem_acquireAll_other (hb : b ≠ a) (seen : List String) (j : String) :
    b ∈ (FifoLock.acquireAll a seen locks j).queue ↔ b ∈ (locks j).queue := by
  rw [FifoLock.acquireAll]
  split_ifs
  · exact FifoLock.mem_acquire_other hb
  · exact Iff.rfl

lemma Ascending.acquired (h : Ascending locks) {ids seen : List String}
    (hseen : ∀ r ∈ seen, r ∈ ids)
    (horder : ∀ held, (locks held).owner = some a ∨ a ∈ (locks held).queue → ∀ r ∈ ids, held ≤ r)
    (hstop : ∀ wanted, a ∈ (locks wanted).queue ∨ (wanted ∈ ids ∧ (locks wanted).owner ≠ none ∧
      (locks wanted).owner ≠ some a) → ∀ r ∈ ids, r ≤ wanted) :
    Ascending (FifoLock.acquireAll a seen locks) := by
  have howner : ∀ j, (FifoLock.acquireAll a seen locks j).owner = some a →
      (locks j).owner = some a ∨ (j ∈ ids ∧ (locks j).owner = none) := by
    intro j hj
    rw [FifoLock.acquireAll] at hj
    split_ifs at hj with hmem
    · exact (FifoLock.acquire_owner_self.mp hj).symm.imp_right (fun hfree => ⟨hseen j hmem, hfree⟩)
    · exact Or.inl hj
  have hqueue : ∀ j, a ∈ (FifoLock.acquireAll a seen locks j).queue →
      a ∈ (locks j).queue ∨ (j ∈ ids ∧ (locks j).owner ≠ none ∧ (locks j).owner ≠ some a) := by
    intro j hj
    rw [FifoLock.acquireAll] at hj
    split_ifs at hj with hmem
    · exact Or.inr ⟨hseen j hmem, FifoLock.mem_acquire_self.mp hj⟩
    · exact Or.inl hj
  have htaken : ∀ j, a ∈ (FifoLock.acquireAll a seen locks j).queue →
      (locks j).owner ≠ none ∧ (locks j).owner ≠ some a := by
    intro j hj
    rcases hqueue j hj with hold | hnew
    · exact ⟨Option.isSome_iff_ne_none.mp ((locks j).held (List.ne_nil_of_mem hold)),
        fun ho => (locks j).apart a ho hold⟩
    · exact hnew.2
  constructor
  · intro b held wanted ho hq
    by_cases hb : b = a
    · subst hb
      have hle : held ≤ wanted := by
        rcases howner held ho with hheld | hheld
        · rcases hqueue wanted hq with hold | hnew
          · exact (h.below b held wanted hheld hold).le
          · exact horder held (Or.inl hheld) wanted hnew.1
        · exact hstop wanted (hqueue wanted hq) held hheld.1
      refine lt_of_le_of_ne hle ?_
      rintro rfl
      rcases howner held ho with hheld | hheld
      · exact (htaken held hq).2 hheld
      · exact (htaken held hq).1 hheld.2
    · rw [owner_acquireAll_other hb] at ho
      rw [mem_acquireAll_other hb] at hq
      exact h.below b held wanted ho hq
  · intro b wanted wanted' hw hw'
    by_cases hb : b = a
    · subst hb
      rcases hqueue wanted hw with hold | hnew <;> rcases hqueue wanted' hw' with hold' | hnew'
      · exact h.single b wanted wanted' hold hold'
      · exact le_antisymm (horder wanted (Or.inr hold) wanted' hnew'.1)
          (hstop wanted (Or.inl hold) wanted' hnew'.1)
      · exact le_antisymm (hstop wanted' (Or.inl hold') wanted hnew.1)
          (horder wanted' (Or.inr hold') wanted hnew.1)
      · exact le_antisymm (hstop wanted' (Or.inr hnew') wanted hnew.1)
          (hstop wanted (Or.inr hnew) wanted' hnew'.1)
    · rw [mem_acquireAll_other hb] at hw hw'
      exact h.single b wanted wanted' hw hw'

lemma mem_keys_of_owner (h : manager.Shows known locks) (ho : (locks r).owner ≠ none) :
    r ∈ manager.resources.keys := by
  obtain ⟨b, hb⟩ := Option.ne_none_iff_exists'.mp ho
  rw [Dict.mem_keys, h.knows r]
  exact known_of_owner h hb

lemma mem_claimsOf (h : manager.Shows known locks)
    (hr : (locks r).owner = some a ∨ a ∈ (locks r).queue) : r ∈ manager.claimsOf a := by
  have ho : (locks r).owner ≠ none := by
    rcases hr with hr | hr
    · simp [hr]
    · exact Option.isSome_iff_ne_none.mp ((locks r).held (List.ne_nil_of_mem hr))
  rw [claimsOf, List.mem_filter, h.owners r, h.queues r]
  exact ⟨mem_keys_of_owner h ho, decide_eq_true hr⟩

lemma mem_blockingOf (h : manager.Shows known locks) {ids : List String}
    (hr : a ∈ (locks r).queue ∨
      (r ∈ manager.reachedBy ids ∧ (locks r).owner ≠ none ∧ (locks r).owner ≠ some a)) :
    r ∈ manager.blockingOf a ids := by
  have ho : (locks r).owner ≠ none := by
    rcases hr with hr | hr
    · exact Option.isSome_iff_ne_none.mp ((locks r).held (List.ne_nil_of_mem hr))
    · exact hr.2.1
  rw [blockingOf, List.mem_filter, h.owners r, h.queues r]
  exact ⟨mem_keys_of_owner h ho, decide_eq_true hr⟩

lemma mem_of_mem_reachedBy {ids : List String} (hr : r ∈ manager.reachedBy ids) : r ∈ ids := by
  have hmem := (List.takeWhile_prefix _).subset hr
  rwa [lockOrder, List.mem_insertionSort, List.mem_dedup] at hmem

lemma mem_reachedBy (h : manager.Shows known locks) {ids seen : List String}
    (hstarts : seen <+: lockOrder ids) (hknown : ∀ r ∈ seen, known r = true) :
    ∀ r ∈ seen, r ∈ manager.reachedBy ids := by
  obtain ⟨rest, hrest⟩ := hstarts
  have hkeys : ∀ r ∈ seen, decide (r ∈ manager.resources.keys) = true := by
    intro r hr
    rw [decide_eq_true_eq, Dict.mem_keys, h.knows r, hknown r hr]
  intro r hr
  rw [reachedBy, ← hrest, List.takeWhile_append_of_pos hkeys]
  exact List.mem_append_left _ hr

def IsAscending (manager : ResourceLockManager) : Prop :=
  ∃ known locks, manager.Shows known locks ∧ Ascending locks

lemma step_ascending (h : manager.IsAscending) (op : ResourceOp)
    (horder : manager.InLockOrder op) (hstop : manager.StopsAtWait op) :
    (ResourceOp.step env manager op).IsAscending := by
  obtain ⟨known, locks, hshows, hlocks⟩ := h
  cases op with
  | acquire r a timestamp => exact horder.elim
  | acquireOrdered a ids timestamp =>
    obtain ⟨seen, hstarts, hknown, hshows'⟩ := step_acquireOrdered env hshows a ids timestamp
    refine ⟨known, _, hshows', hlocks.acquired (mem_reachedBy hshows hstarts hknown) ?_ ?_⟩
    · exact fun held hheld r hr =>
        horder held (mem_claimsOf hshows hheld) r (mem_of_mem_reachedBy hr)
    · exact fun wanted hwanted => hstop wanted (mem_blockingOf hshows hwanted)
  | release r a timestamp =>
    rcases step_release env hshows r a timestamp with hsame | hmoved
    · exact ⟨known, locks, hsame, hlocks⟩
    · refine ⟨known, _, hmoved, hlocks.released fun j => ?_⟩
      rw [Function.update_apply]
      split_ifs with hj
      · exact Or.inr (hj ▸ rfl)
      · exact Or.inl rfl
  | sweepTimeouts now timeoutSec =>
    obtain ⟨locks', hshows', hmoved⟩ := step_sweepTimeouts env hshows now timeoutSec
    exact ⟨known, locks', hshows', hlocks.released hmoved⟩

lemma IsAscending.not_deadlocked (h : manager.IsAscending) : ¬ manager.IsDeadlocked := by
  obtain ⟨known, locks, hshows, hlocks⟩ := h
  apply not_deadlocked_of_order
  intro a held wanted ho hq
  rw [hshows.owners held] at ho
  rw [hshows.queues wanted] at hq
  exact hlocks.below a held wanted ho hq

end ResourceLockManager

open ResourceLockManager

def crossing : List ResourceOp :=
  [.acquireOrdered "robot_01" ["narrow_aisle_1"] none,
    .acquireOrdered "robot_02" ["narrow_aisle_1", "pickup_station_a"] none,
    .acquireOrdered "robot_01" ["pickup_station_a"] none]

def demoManager : ResourceLockManager :=
  init still defaultDemoResources defaultResourceTimeoutSec 0

theorem crossing_deadlocks :
    Guarded (ResourceOp.step still) InLockOrder demoManager crossing ∧
      (runAll (ResourceOp.step still) demoManager crossing).IsDeadlocked := by
  have hfirst : WaitsFor (runAll (ResourceOp.step still) demoManager crossing).ownerOf
      (runAll (ResourceOp.step still) demoManager crossing).waitersOf "robot_01" "robot_02" :=
    ⟨"pickup_station_a", by decide +kernel, by decide +kernel⟩
  have hsecond : WaitsFor (runAll (ResourceOp.step still) demoManager crossing).ownerOf
      (runAll (ResourceOp.step still) demoManager crossing).waitersOf "robot_02" "robot_01" :=
    ⟨"narrow_aisle_1", by decide +kernel, by decide +kernel⟩
  refine ⟨⟨?_, ?_, ?_, trivial⟩, "robot_01", .tail (.single hfirst) hsecond⟩
  · decide +kernel
  · decide +kernel
  · decide +kernel

theorem no_deadlock_in_lock_order (env : Environment) (resourceIds : List String)
    (timeoutSec : Floating) (ticks : ℕ) (ops : List ResourceOp)
    (hops : Guarded (ResourceOp.step env) (fun manager op =>
      manager.InLockOrder op ∧ manager.StopsAtWait op)
      (init env resourceIds timeoutSec ticks) ops) :
    Always (ResourceOp.step env) (fun manager => ¬ manager.IsDeadlocked)
      (init env resourceIds timeoutSec ticks) ops := by
  have hstart : (init env resourceIds timeoutSec ticks).IsAscending :=
    ⟨_, _, shows_init env resourceIds timeoutSec ticks, ascending_free⟩
  exact (hops.always IsAscending (fun _ op h hop => step_ascending h op hop.1 hop.2) hstart).mono
    (fun _ h => h.not_deadlocked)

/-- The second robot stops at the aisle it waits for, and is granted it when the first leaves. -/
theorem no_deadlock_in_lock_order_of_two :
    Always (ResourceOp.step still) (fun manager => ¬ manager.IsDeadlocked)
      (init still defaultDemoResources defaultResourceTimeoutSec 0)
      [.acquireOrdered "robot_01" ["pickup_station_a", "narrow_aisle_1"] none,
        .acquireOrdered "robot_02" ["narrow_aisle_1"] none,
        .release "narrow_aisle_1" "robot_01" none] :=
  no_deadlock_in_lock_order still defaultDemoResources defaultResourceTimeoutSec 0 _
    ⟨by decide +kernel, by decide +kernel, by decide +kernel, trivial⟩

end Fleet
