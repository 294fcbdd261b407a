import Mathlib.Data.Int.Log
import AmrWarehouse.Library.Text

/-! Floating-point values as texts and comparisons see them: rationals, the infinities and NaN. A
rational is rounded to the nearest double where one is made. -/

namespace Library

section Rounding

/-- The nearest whole number, and the even one of two that are equally near. -/
def halfEven (q : ℚ) : ℤ :=
  if q - ⌊q⌋ < 1 / 2 ∨ q - ⌊q⌋ = 1 / 2 ∧ ⌊q⌋ % 2 = 0 then ⌊q⌋ else ⌊q⌋ + 1

/-- The exponent of the last of 53 binary places, which no double has below the 1074th. -/
def lastPlace (q : ℚ) : ℤ := max (Int.log 2 |q| - 52) (-1074)

def roundDouble (q : ℚ) : ℚ := halfEven (q / 2 ^ lastPlace q) * 2 ^ lastPlace q

/-- From half a last place beyond the largest double on, no double is near. -/
def doubleRange : ℚ := 2 ^ 1024 - 2 ^ 970

lemma halfEven_nonneg {q : ℚ} (h : 0 ≤ q) : 0 ≤ halfEven q := by
  have hfloor : 0 ≤ ⌊q⌋ := Int.floor_nonneg.mpr h
  rw [halfEven]
  split_ifs
  · exact hfloor
  · omega

lemma roundDouble_nonneg {q : ℚ} (h : 0 ≤ q) : 0 ≤ roundDouble q := by
  have hplace : (0 : ℚ) < 2 ^ lastPlace q := zpow_pos (by norm_num) _
  have hwhole : (0 : ℚ) ≤ halfEven (q / 2 ^ lastPlace q) := by
    exact_mod_cast halfEven_nonneg (div_nonneg h hplace.le)
  exact mul_nonneg hwhole hplace.le

lemma halfEven_intCast (n : ℤ) : halfEven n = n := by
  rw [halfEven, if_pos, Int.floor_intCast]
  left
  rw [Int.floor_intCast, sub_self]
  norm_num

lemma roundDouble_of_multiple {q : ℚ} {n : ℤ} (h : q = n * 2 ^ lastPlace q) :
    roundDouble q = q := by
  have hplace : (2 : ℚ) ^ lastPlace q ≠ 0 := zpow_ne_zero _ (by norm_num)
  have hwhole : q / 2 ^ lastPlace q = n := by
    rw [div_eq_iff hplace]
    exact h
  rw [roundDouble, hwhole, halfEven_intCast]
  exact h.symm

lemma lastPlace_intCast (n : ℤ) : lastPlace n = max ((Nat.log 2 n.natAbs : ℤ) - 52) (-1074) := by
  rw [lastPlace, ← Int.cast_abs, Int.abs_eq_natAbs, Int.cast_natCast, Int.log_natCast]

lemma roundDouble_intCast {n : ℤ} (h : |n| ≤ 2 ^ 53) : roundDouble n = n := by
  have hplace := lastPlace_intCast n
  rcases h.lt_or_eq with hless | heq
  · have habs : n.natAbs < 2 ^ 53 := by
      zify
      exact hless
    have hlog : Nat.log 2 n.natAbs < 53 := Nat.log_lt_of_lt_pow' (by norm_num) habs
    obtain ⟨k, hk⟩ := Int.eq_ofNat_of_zero_le (show 0 ≤ -lastPlace n by omega)
    refine roundDouble_of_multiple (n := n * 2 ^ k) ?_
    rw [show lastPlace n = -(k : ℤ) by omega, zpow_neg, zpow_natCast]
    push_cast
    field_simp
  · have habs : n.natAbs = 2 ^ 53 := by
      zify
      exact heq
    rw [habs, Nat.log_pow (by norm_num)] at hplace
    have hhalf : n = n / 2 * 2 := by omega
    refine roundDouble_of_multiple (n := n / 2) ?_
    rw [show lastPlace n = 1 by omega, zpow_one]
    exact_mod_cast hhalf

example : roundDouble (3 / 10) = 5404319552844595 / 18014398509481984 := by decide +kernel

end Rounding

inductive Floating
  | finite (value : ℚ)
  | infinite (negative : Bool)
  | nan
  deriving DecidableEq, Repr

instance (n : ℕ) : OfNat Floating n := ⟨.finite n⟩

namespace Floating

def isFinite : Floating → Bool
  | finite _ => true
  | infinite _ => false
  | nan => false

/-- Comparisons with NaN are false. -/
def lt : Floating → Floating → Bool
  | finite x, finite y => decide (x < y)
  | finite _, infinite negative => !negative
  | infinite negative, finite _ => negative
  | infinite n, infinite m => n && !m
  | nan, _ => false
  | _, nan => false

def le (x y : Floating) : Bool := x.lt y || decide (x = y ∧ x ≠ nan)

/-- The first of two values unless the second is greater. -/
def max (x y : Floating) : Floating := if x.lt y then y else x

/-- The first of two values unless the second is less. -/
def min (x y : Floating) : Floating := if y.lt x then y else x

def after (now : ℚ) : Floating → Floating
  | finite duration => finite (now + duration)
  | infinite negative => infinite negative
  | nan => nan

def fixedPoint (places : ℕ) : Floating → String
  | finite value => Library.fixedPoint places value
  | infinite negative => if negative then "-inf" else "inf"
  | nan => "nan"

@[simp] lemma lt_finite (p q : ℚ) : (finite p).lt (finite q) = decide (p < q) := rfl

@[simp] lemma le_finite (p q : ℚ) : (finite p).le (finite q) = decide (p ≤ q) := by
  simp [le, le_iff_lt_or_eq]

lemma max_finite (p q : ℚ) : (finite p).max (finite q) = finite (Max.max p q) := by
  rw [max, lt_finite]
  split_ifs with h
  · rw [max_eq_right (of_decide_eq_true h).le]
  · rw [max_eq_left (not_lt.mp fun hlt => h (decide_eq_true hlt))]

lemma min_finite (p q : ℚ) : (finite p).min (finite q) = finite (Min.min p q) := by
  rw [min, lt_finite]
  split_ifs with h
  · rw [min_eq_right (of_decide_eq_true h).le]
  · rw [min_eq_left (not_lt.mp fun hlt => h (decide_eq_true hlt))]

lemma lt_of_le {x y : Floating} (h : x.le y = false) : x.lt y = false := by
  rw [le, Bool.or_eq_false_iff] at h
  exact h.1

lemma lt_of_ge {x y : Floating} (h : x.le y = true) : y.lt x = false := by
  cases y with
  | finite q =>
    cases x with
    | finite p => simpa using h
    | infinite negative => cases negative <;> simp_all [le, lt]
    | nan => rfl
  | infinite negative =>
    cases x with
    | finite p => cases negative <;> simp_all [le, lt]
    | infinite other => cases negative <;> cases other <;> simp_all [le, lt]
    | nan => rfl
  | nan => rfl

lemma lt_after_of_le {now now' seen : ℚ} {duration : Floating}
    (h : (finite seen).lt (duration.after now) = false) (hnow : now' ≤ now) :
    (finite seen).lt (duration.after now') = false := by
  cases duration with
  | finite d =>
    simp only [after, lt_finite, decide_eq_false_iff_not, not_lt] at h ⊢
    linarith
  | infinite negative => exact h
  | nan => exact h

end Floating

end Library
