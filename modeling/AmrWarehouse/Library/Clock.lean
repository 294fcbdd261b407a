import AmrWarehouse.Library.Floating

/-! A monotonic clock, read at one moment after the other. It outlasts every time. -/

namespace Library

structure Clock where
  time : ℕ → ℚ
  horizon : ℚ → ℕ
  forward : Monotone time
  passes : ∀ t, t < time (horizon t)

namespace Clock

variable (clock : Clock)

def ticking (step : ℚ) (h : 0 < step) : Clock where
  time n := n * step
  horizon t := ⌈t / step⌉.toNat + 1
  forward n m hnm := mul_le_mul_of_nonneg_right (by exact_mod_cast hnm) h.le
  passes t := by
    rw [← div_lt_iff₀ h]
    have hceil : (t / step : ℚ) ≤ ⌈t / step⌉ := Int.le_ceil _
    have htoNat : ((⌈t / step⌉ : ℤ) : ℚ) ≤ (⌈t / step⌉.toNat : ℤ) := by
      exact_mod_cast Int.self_le_toNat _
    push_cast at htoNat ⊢
    linarith

/-- The turns of a wait that looks at the clock in each. One that no time ends is followed as far
as the patience goes. -/
def turns (patience : ℕ) : Floating → ℕ
  | .finite deadline => clock.horizon deadline + 1
  | _ => patience + 1

/-- There are more turns left than moments before the deadline. -/
def Spare (deadline : Floating) (turns moment : ℕ) : Prop :=
  ∀ t, deadline = .finite t → clock.horizon t - moment < turns

variable {clock}

lemma lt_horizon {t : ℚ} {n : ℕ} (h : clock.time n ≤ t) : n < clock.horizon t := by
  by_contra hle
  exact absurd (clock.passes t) (not_lt.mpr ((clock.forward (not_lt.mp hle)).trans h))

lemma spare_turns (patience : ℕ) (deadline : Floating) (moment : ℕ) :
    clock.Spare deadline (clock.turns patience deadline) moment := by
  rintro t rfl
  exact Nat.lt_succ_of_le (Nat.sub_le _ _)

lemma Spare.next {deadline : Floating} {turns moment look moment' : ℕ}
    (h : clock.Spare deadline (turns + 1) moment)
    (hbefore : ∀ t, deadline = .finite t → clock.time look ≤ t) (hfrom : moment ≤ look)
    (hto : look < moment') : clock.Spare deadline turns moment' := by
  intro t ht
  have hleft := h t ht
  have hless := lt_horizon (hbefore t ht)
  omega

lemma Spare.endless {deadline : Floating} {moment : ℕ} (h : clock.Spare deadline 0 moment) :
    deadline.isFinite = false := by
  cases deadline with
  | finite t => exact absurd (h t rfl) (Nat.not_lt_zero _)
  | infinite negative => rfl
  | nan => rfl

end Clock

end Library
