import AmrWarehouse.Library.Runs

/-! A queue that is entered at the back and left at the front, and that one may withdraw from. -/

namespace Library

inductive QueueStep (α : Type)
  | enter (a : α)
  | leave
  | withdraw (a : α)
  | stay
  deriving DecidableEq

variable {α : Type} [DecidableEq α]

namespace QueueStep

def apply (queue : List α) : QueueStep α → List α
  | enter a => queue ++ [a]
  | leave => queue.tail
  | withdraw a => queue.filter (· ≠ a)
  | stay => queue

def entering : QueueStep α → List α
  | enter a => [a]
  | _ => []

def leaving (queue : List α) : QueueStep α → List α
  | leave => queue.take 1
  | _ => []

def withdrawing (queue : List α) : QueueStep α → List α
  | withdraw a => [a].filter (· ∈ queue)
  | _ => []

end QueueStep

def entered (steps : List (QueueStep α)) : List α := steps.flatMap QueueStep.entering

def served : List α → List (QueueStep α) → List α
  | _, [] => []
  | queue, step :: steps => step.leaving queue ++ served (step.apply queue) steps

def withdrawn : List α → List (QueueStep α) → List α
  | _, [] => []
  | queue, step :: steps => step.withdrawing queue ++ withdrawn (step.apply queue) steps

variable {queue : List α} {steps : List (QueueStep α)} {a : α}

omit [DecidableEq α] in
lemma entered_cons (step : QueueStep α) (steps : List (QueueStep α)) :
    entered (step :: steps) = step.entering ++ entered steps :=
  List.flatMap_cons

lemma apply_append_sublist (queue : List α) (step : QueueStep α) (later : List α) :
    (step.apply queue ++ later).Sublist (queue ++ (step.entering ++ later)) := by
  cases step with
  | enter a => rw [QueueStep.apply, QueueStep.entering, List.append_assoc]
  | leave => exact (List.tail_sublist queue).append_right later
  | withdraw a => exact List.filter_sublist.append_right later
  | stay => exact List.Sublist.refl _

lemma mem_of_withdrawn (h : a ∈ withdrawn queue steps) : a ∈ queue ++ entered steps := by
  induction steps generalizing queue with
  | nil => simp [withdrawn] at h
  | cons step steps ih =>
    rw [entered_cons]
    rcases List.mem_append.mp h with hnow | hlater
    · cases step with
      | withdraw b =>
        obtain ⟨hb, hqueue⟩ := List.mem_filter.mp hnow
        rw [List.mem_singleton.mp hb] at hqueue ⊢
        exact List.mem_append_left _ (of_decide_eq_true hqueue)
      | enter b | leave | stay => simp [QueueStep.withdrawing] at hnow
    · exact (apply_append_sublist queue step _).subset (ih hlater)

lemma filter_ne_of_not_mem {xs : List α} (h : a ∉ xs) : xs.filter (· ≠ a) = xs := by
  rw [List.filter_eq_self]
  intro b hb
  exact decide_eq_true fun heq => h (heq ▸ hb)

lemma withdrawing_of_mem (h : a ∈ queue) : (QueueStep.withdraw a).withdrawing queue = [a] := by
  simp [QueueStep.withdrawing, h]

lemma withdrawing_of_not_mem (h : a ∉ queue) :
    (QueueStep.withdraw a).withdrawing queue = [] := by
  simp [QueueStep.withdrawing, h]

/-- All are served in the order in which they have entered, but for those that withdraw while they
are in the queue. -/
lemma served_append_queue (h : (queue ++ entered steps).Nodup) :
    served queue steps ++ runAll QueueStep.apply queue steps =
      (queue ++ entered steps).filter (· ∉ withdrawn queue steps) := by
  induction steps generalizing queue with
  | nil => simp [served, entered, withdrawn]
  | cons step steps ih =>
    rw [entered_cons] at h ⊢
    have hlater := ih (h.sublist (apply_append_sublist queue step (entered steps)))
    rw [served, runAll_cons, List.append_assoc, hlater, withdrawn]
    cases step with
    | enter a => exact congrArg (List.filter _) (List.append_assoc queue [a] (entered steps))
    | stay => rfl
    | leave =>
      cases queue with
      | nil => rfl
      | cons first queue =>
        have hfirst : first ∉ withdrawn queue steps := fun hmem =>
          (List.nodup_cons.mp h).1 (mem_of_withdrawn hmem)
        change first :: (queue ++ entered steps).filter (· ∉ withdrawn queue steps) =
          (first :: (queue ++ entered steps)).filter (· ∉ withdrawn queue steps)
        rw [List.filter_cons_of_pos (by simpa using hfirst)]
    | withdraw a =>
      by_cases ha : a ∈ queue
      · have hnew : a ∉ entered steps := fun hmem => List.disjoint_of_nodup_append h ha hmem
        have hkept : (queue ++ entered steps).filter (· ≠ a) =
            queue.filter (· ≠ a) ++ entered steps := by
          rw [List.filter_append, filter_ne_of_not_mem hnew]
        rw [withdrawing_of_mem ha, QueueStep.apply, ← hkept, List.filter_filter]
        refine List.filter_congr fun b _ => ?_
        simp [Bool.and_comm]
      · rw [withdrawing_of_not_mem ha, QueueStep.apply, filter_ne_of_not_mem ha]
        rfl

lemma length_served_le (queue : List α) (steps : List (QueueStep α)) :
    (served queue steps).length ≤ steps.count .leave := by
  induction steps generalizing queue with
  | nil => exact Nat.le_refl 0
  | cons step steps ih =>
    have hlater := ih (step.apply queue)
    rw [served, List.length_append, List.count_cons]
    cases step with
    | leave =>
      have hone : (QueueStep.leave.leaving queue).length ≤ 1 := by
        rw [QueueStep.leaving, List.length_take]
        omega
      simp only [beq_self_eq_true, if_true]
      omega
    | enter a | withdraw a | stay => simpa [QueueStep.leaving] using hlater

end Library
