import Mathlib.Tactic

/-! Lists whose elements belong to numbers that increase along the list and lie in an interval. -/

namespace Library

inductive Numbered {α : Type} (P : α → ℕ → Prop) : ℕ → ℕ → List α → Prop
  | nil {first last} (h : first ≤ last) : Numbered P first last []
  | cons {first last n x xs} (hfirst : first ≤ n) (hx : P x n)
      (hxs : Numbered P (n + 1) last xs) : Numbered P first last (x :: xs)

namespace Numbered

variable {α : Type} {P Q : α → ℕ → Prop} {first middle last : ℕ} {xs ys : List α} {x : α}

lemma le (h : Numbered P first last xs) : first ≤ last := by
  induction h with
  | nil h => exact h
  | cons hfirst _ _ ih => omega

lemma after (h : Numbered P middle last xs) (hle : first ≤ middle) : Numbered P first last xs := by
  cases h with
  | nil h => exact .nil (hle.trans h)
  | cons hfirst hx hxs => exact .cons (hle.trans hfirst) hx hxs

lemma append (h : Numbered P first middle xs) (h' : Numbered P middle last ys) :
    Numbered P first last (xs ++ ys) := by
  induction h with
  | nil hle => exact h'.after hle
  | cons hfirst hx _ ih => exact .cons hfirst hx (ih h')

lemma singleton {n : ℕ} (hfirst : first ≤ n) (hlast : n < last) (hx : P x n) :
    Numbered P first last [x] :=
  .cons hfirst hx (.nil hlast)

lemma exists_of_mem (h : Numbered P first last xs) (hx : x ∈ xs) :
    ∃ n, first ≤ n ∧ n < last ∧ P x n := by
  induction h with
  | nil _ => simp at hx
  | @cons first last n y xs hfirst hy hxs ih =>
    rcases List.mem_cons.mp hx with rfl | hx
    · exact ⟨n, hfirst, hxs.le, hy⟩
    · obtain ⟨m, hm, hless, hp⟩ := ih hx
      exact ⟨m, by omega, hless, hp⟩

/-- What holds of any two elements with growing numbers holds of any two in the list. -/
lemma pairwise {R : α → α → Prop} (h : Numbered P first last xs)
    (hR : ∀ x y m n, first ≤ m → m < n → n < last → P x m → P y n → R x y) : xs.Pairwise R := by
  induction h with
  | nil _ => exact .nil
  | @cons first last n x xs hfirst hx hxs ih =>
    rw [List.pairwise_cons]
    refine ⟨fun y hy => ?_, ih fun y z m k hm => hR y z m k (by omega)⟩
    obtain ⟨m, hm, hless, hy⟩ := hxs.exists_of_mem hy
    exact hR x y n m hfirst hm hless hx hy

lemma map {ys : List α} {r : α → α → Prop} (h : Numbered P first last xs)
    (hr : List.Forall₂ r xs ys) (hQ : ∀ x y n, P x n → r x y → Q y n) :
    Numbered Q first last ys := by
  induction h generalizing ys with
  | nil h =>
    cases hr
    exact .nil h
  | cons hfirst hx _ ih =>
    cases hr with
    | cons hhead htail => exact .cons hfirst (hQ _ _ _ hx hhead) (ih htail)

/-- New numbers, where those of one old number lie in an interval of their own. -/
lemma renumber {begins : ℕ → ℕ} (hbegins : Monotone begins)
    (hPQ : ∀ x n, P x n → ∃ m, begins n ≤ m ∧ m < begins (n + 1) ∧ Q x m)
    (h : Numbered P first last xs) : Numbered Q (begins first) (begins last) xs := by
  induction h with
  | nil h => exact .nil (hbegins h)
  | @cons first last n x xs hfirst hx _ ih =>
    obtain ⟨m, hm, hless, hq⟩ := hPQ x n hx
    exact .cons ((hbegins hfirst).trans hm) hq (ih.after hless)

end Numbered

end Library
