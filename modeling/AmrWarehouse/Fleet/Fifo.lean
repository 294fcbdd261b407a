import AmrWarehouse.Library.Runs
import AmrWarehouse.Fleet.LockCalls

/-! Wait queues are first in, first out, and nobody leaves one without the resource. -/

namespace Fleet

open Library

namespace ResourceLockManager

structure QueueHistory where
  joined : List String
  granted : List String

def recordQueue (resourceId : String) (before after : ResourceLockManager) (h : QueueHistory) :
    QueueHistory where
  joined := h.joined ++ FifoLock.joins (before.waitersOf resourceId) (after.waitersOf resourceId)
  granted := h.granted ++
    FifoLock.grants (before.waitersOf resourceId) (after.ownerOf resourceId)

def queueHistory (env : Environment) (resourceId : String) (manager : ResourceLockManager)
    (ops : List ResourceOp) : QueueHistory :=
  historyOf (ResourceOp.step env) (recordQueue resourceId) manager ⟨[], []⟩ ops

def toldWaiting (env : Environment) (manager : ResourceLockManager) :
    ResourceOp → List (String × String)
  | .acquire resourceId robotId timestamp =>
    match (acquire env resourceId robotId timestamp).run manager with
    | .ok .waiting _ => [(resourceId, robotId)]
    | _ => []
  | .acquireOrdered robotId resourceIds timestamp =>
    match (acquireOrdered env robotId resourceIds timestamp).run manager with
    | .ok results _ => (results.filter (·.2 = .waiting)).map fun p => (p.1, robotId)
    | _ => []
  | .release _ _ _ => []
  | .sweepTimeouts _ _ => []

variable {env : Environment} {manager : ResourceLockManager} {known : String → Bool}
variable {locks : String → FifoLock String} {r a : String}

lemma Shows.orderly (h : manager.Shows known locks) (r : String) :
    (manager.waitersOf r).Nodup ∧
      (∀ a, manager.ownerOf r = some a → a ∉ manager.waitersOf r) ∧
      (manager.waitersOf r ≠ [] → (manager.ownerOf r).isSome) := by
  rw [h.owners r, h.queues r]
  exact ⟨(locks r).distinct, (locks r).apart, (locks r).held⟩

lemma step_flow (h : manager.Shows known locks) (op : ResourceOp) (r : String) :
    manager.waitersOf r ++
        FifoLock.joins (manager.waitersOf r) ((ResourceOp.step env manager op).waitersOf r) =
      FifoLock.grants (manager.waitersOf r) ((ResourceOp.step env manager op).ownerOf r) ++
        (ResourceOp.step env manager op).waitersOf r := by
  obtain ⟨locks', hshows, hstep⟩ := step_locks env h op
  rw [h.queues r, hshows.owners r, hshows.queues r]
  exact (hstep r).flow

lemma step_waits_or_holds (h : manager.Shows known locks) (op : ResourceOp)
    (ha : a ∈ manager.waitersOf r) :
    a ∈ (ResourceOp.step env manager op).waitersOf r ∨
      (ResourceOp.step env manager op).ownerOf r = some a := by
  obtain ⟨locks', hshows, hstep⟩ := step_locks env h op
  rw [h.queues r] at ha
  rw [hshows.owners r, hshows.queues r]
  exact (hstep r).waits_or_holds ha

lemma step_shows (h : ∃ locks, manager.Shows known locks) (op : ResourceOp) :
    ∃ locks, (ResourceOp.step env manager op).Shows known locks := by
  obtain ⟨locks, hlocks⟩ := h
  obtain ⟨locks', hshows, -⟩ := step_locks env hlocks op
  exact ⟨locks', hshows⟩

lemma run_shows (h : ∃ locks, manager.Shows known locks) (ops : List ResourceOp) :
    ∃ locks, (runAll (ResourceOp.step env) manager ops).Shows known locks :=
  (guarded_of_forall (fun _ _ => trivial) manager ops).invariant
    (fun m => ∃ locks, m.Shows known locks) (fun _ op hm _ => step_shows hm op) h

lemma waits_until_granted (h : ∃ locks, manager.Shows known locks) (ha : a ∈ manager.waitersOf r)
    {later : List ResourceOp}
    (hnever : Always (ResourceOp.step env) (fun m => m.ownerOf r ≠ some a) manager later) :
    a ∈ (runAll (ResourceOp.step env) manager later).waitersOf r := by
  induction later generalizing manager with
  | nil => exact ha
  | cons op later ih =>
    obtain ⟨locks, hlocks⟩ := h
    have hnext : (ResourceOp.step env manager op).ownerOf r ≠ some a := by
      cases later with
      | nil => exact hnever.2
      | cons _ _ => exact hnever.2.1
    have hwaits := (step_waits_or_holds hlocks op ha).resolve_right hnext
    exact ih (step_shows ⟨locks, hlocks⟩ op) hwaits hnever.2

lemma waits_of_acquire (h : manager.Shows known locks) {timestamp : Option String}
    {t : ResourceLockManager} (hrun : (acquire env r a timestamp).run manager = .ok .waiting t) :
    a ∈ t.waitersOf r := by
  cases hr : known r with
  | false => exact ((ends_acquire_unknown h hr timestamp).of_ok hrun).elim
  | true =>
    obtain ⟨ht, hwaits⟩ := (ends_acquire h hr timestamp).of_ok hrun
    rw [ht.queues r, Function.comp_apply, Function.update_self]
    exact hwaits rfl

lemma waits_of_acquireOrdered (h : manager.Shows known locks) {resourceIds : List String}
    {timestamp : Option String} {results : List (String × ResourceAcquireResult)}
    {t : ResourceLockManager}
    (hrun : (acquireOrdered env a resourceIds timestamp).run manager = .ok results t)
    (hr : (r, .waiting) ∈ results) : a ∈ t.waitersOf r := by
  obtain ⟨-, ht, hwaits⟩ := (ends_acquireOrdered h resourceIds timestamp).of_ok hrun
  rw [ht.queues r]
  exact hwaits _ hr rfl

lemma waits_of_toldWaiting (h : manager.Shows known locks) {op : ResourceOp}
    (ha : (r, a) ∈ toldWaiting env manager op) :
    a ∈ (ResourceOp.step env manager op).waitersOf r := by
  cases op with
  | acquire resourceId robotId timestamp =>
    rw [toldWaiting] at ha
    split at ha
    · rename_i t hrun
      rw [List.mem_singleton, Prod.mk.injEq] at ha
      obtain ⟨rfl, rfl⟩ := ha
      rw [ResourceOp.step, ResourceOp.call, final_discard, final_of_ok hrun]
      exact waits_of_acquire h hrun
    · simp at ha
  | acquireOrdered robotId resourceIds timestamp =>
    rw [toldWaiting] at ha
    split at ha
    · rename_i results t hrun
      obtain ⟨p, hp, heq⟩ := List.mem_map.mp ha
      rw [List.mem_filter, decide_eq_true_eq] at hp
      rw [Prod.mk.injEq] at heq
      obtain ⟨rfl, rfl⟩ := heq
      rw [ResourceOp.step, ResourceOp.call, final_discard, final_of_ok hrun]
      exact waits_of_acquireOrdered h hrun (hp.2 ▸ hp.1)
    · simp at ha
  | release resourceId robotId timestamp => simp [toldWaiting] at ha
  | sweepTimeouts now timeoutSec => simp [toldWaiting] at ha

lemma joined_eq (h : ∃ locks, manager.Shows known locks) (hnone : manager.waitersOf r = [])
    (ops : List ResourceOp) :
    (queueHistory env r manager ops).joined =
      (queueHistory env r manager ops).granted ++
        (runAll (ResourceOp.step env) manager ops).waitersOf r := by
  have hall : Guarded (ResourceOp.step env) (fun _ _ => True) manager ops :=
    guarded_of_forall (fun _ _ => trivial) manager ops
  have hstart : (∃ locks, manager.Shows known locks) ∧
      (QueueHistory.mk [] []).joined = (QueueHistory.mk [] []).granted ++ manager.waitersOf r :=
    ⟨h, by rw [hnone, List.nil_append]⟩
  refine (hall.history_invariant (fun m (turns : QueueHistory) =>
    (∃ locks, m.Shows known locks) ∧ turns.joined = turns.granted ++ m.waitersOf r)
    ?_ hstart).2
  rintro m turns op ⟨⟨locks, hlocks⟩, hturns⟩ -
  refine ⟨step_shows ⟨locks, hlocks⟩ op, ?_⟩
  rw [recordQueue, hturns, List.append_assoc, step_flow hlocks op r, List.append_assoc]

end ResourceLockManager

open ResourceLockManager in
theorem waiters_are_served_in_order (env : Environment) (resourceIds : List String)
    (timeoutSec : Floating) (ticks : ℕ) (ops : List ResourceOp) :
    let fresh := init env resourceIds timeoutSec ticks
    let manager := runAll (ResourceOp.step env) fresh ops
    (∀ r, (manager.waitersOf r).Nodup ∧
      (∀ a, manager.ownerOf r = some a → a ∉ manager.waitersOf r) ∧
      (manager.waitersOf r ≠ [] → (manager.ownerOf r).isSome)) ∧
    (∀ op later r a, (r, a) ∈ toldWaiting env manager op →
      Always (ResourceOp.step env) (fun m => m.ownerOf r ≠ some a)
        (ResourceOp.step env manager op) later →
      a ∈ (runAll (ResourceOp.step env) (ResourceOp.step env manager op) later).waitersOf r) ∧
    (∀ r, (queueHistory env r fresh ops).joined =
      (queueHistory env r fresh ops).granted ++ manager.waitersOf r) := by
  intro fresh manager
  have hfresh : fresh.Shows (fun r => decide (r ∈ resourceIds)) (fun _ => FifoLock.free) :=
    shows_init env resourceIds timeoutSec ticks
  obtain ⟨locks, hlocks⟩ := run_shows ⟨_, hfresh⟩ ops
  refine ⟨fun r => hlocks.orderly r, ?_, fun r => joined_eq ⟨_, hfresh⟩ (hfresh.queues r) ops⟩
  intro op later r a hwaiting hnever
  exact waits_until_granted (step_shows ⟨locks, hlocks⟩ op) (waits_of_toldWaiting hlocks hwaiting)
    hnever

end Fleet
