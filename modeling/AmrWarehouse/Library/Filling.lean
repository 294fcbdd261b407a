import Mathlib.Tactic

/-! Loops that fill a buffer from the front, and lists cut into pieces of one length. -/

namespace Library

variable {ε α β : Type}

/-- From a buffer filled so far, with the offset at the end of that, the step fills in the items. -/
def Fills (step : List α × ℕ → Except ε (List α × ℕ)) (items : List α) : Prop :=
  ∀ filled rest, items.length ≤ rest.length →
    step (filled ++ rest, filled.length) =
      .ok (filled ++ items ++ rest.drop items.length, (filled ++ items).length)

lemma fills_foldlM {f : List α × ℕ → β → Except ε (List α × ℕ)} {g : β → List α} {xs : List β}
    (h : ∀ x ∈ xs, Fills (fun state => f state x) (g x)) :
    Fills (fun state => xs.foldlM f state) (xs.flatMap g) := by
  induction xs with
  | nil =>
    intro filled rest _
    simp [pure, Except.pure]
  | cons x xs ih =>
    intro filled rest hlength
    rw [List.flatMap_cons, List.length_append] at hlength
    have hfirst := h x List.mem_cons_self filled rest (by omega)
    have hrest := ih (fun y hy => h y (List.mem_cons_of_mem x hy)) (filled ++ g x)
      (rest.drop (g x).length) (by rw [List.length_drop]; omega)
    simp only [List.foldlM_cons, hfirst, bind, Except.bind]
    rw [show xs.foldlM f _ = _ from hrest, List.drop_drop, List.flatMap_cons]
    simp only [List.append_assoc, List.length_append]

lemma Fills.run {step : List α × ℕ → Except ε (List α × ℕ)} {items buffer : List α}
    (h : Fills step items) (hlength : buffer.length = items.length) :
    step (buffer, 0) = .ok (items, items.length) := by
  have hrun := h [] buffer hlength.ge
  rwa [List.nil_append, List.nil_append, List.drop_of_length_le hlength.le, List.append_nil,
    List.length_nil] at hrun

lemma mapM_of_ok {f : β → Except ε α} {g : β → α} {xs : List β} (h : ∀ x ∈ xs, f x = .ok (g x)) :
    xs.mapM f = .ok (xs.map g) := by
  induction xs with
  | nil => rfl
  | cons x xs ih =>
    rw [List.mapM_cons, h x List.mem_cons_self, ih fun y hy => h y (List.mem_cons_of_mem x hy)]
    rfl

def piece (size : ℕ) (xs : List α) (n : ℕ) : List α := (xs.drop (n * size)).take size

lemma length_piece {size count n : ℕ} {xs : List α} (hxs : count * size ≤ xs.length)
    (hn : n < count) : (piece size xs n).length = size := by
  have hle : (n + 1) * size ≤ count * size := Nat.mul_le_mul_right size hn
  rw [Nat.succ_mul] at hle
  rw [piece, List.length_take, List.length_drop]
  omega

lemma getElem?_piece {size n i : ℕ} {xs : List α} (hi : i < size) :
    (piece size xs n)[i]? = xs[n * size + i]? := by
  rw [piece, List.getElem?_take_of_lt hi, List.getElem?_drop]

lemma flatMap_piece (size count : ℕ) (xs : List α) :
    (List.range count).flatMap (piece size xs) = xs.take (count * size) := by
  induction count with
  | zero => simp
  | succ count ih =>
    rw [List.range_succ, List.flatMap_append, ih, List.flatMap_singleton, piece, Nat.succ_mul,
      List.take_add]

lemma flatMap_piece_of_length {size count : ℕ} {xs : List α} (h : xs.length = count * size) :
    (List.range count).flatMap (piece size xs) = xs := by
  rw [flatMap_piece, ← h, List.take_length]

end Library
