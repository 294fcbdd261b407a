import Mathlib.Tactic

/-! Who waits for whom when resources have owners and queues, and why an order on the resources
rules out cycles. -/

namespace Library

variable {κ ρ : Type} {owner : κ → Option ρ} {queue : κ → List ρ}

def WaitsFor (owner : κ → Option ρ) (queue : κ → List ρ) (a b : ρ) : Prop :=
  ∃ k, a ∈ queue k ∧ owner k = some b

def Deadlocked (owner : κ → Option ρ) (queue : κ → List ρ) : Prop :=
  ∃ a, Relation.TransGen (WaitsFor owner queue) a a

lemma exists_le_of_chain [Preorder κ]
    (h : ∀ a held wanted, owner held = some a → a ∈ queue wanted → held < wanted) {a b : ρ}
    (hab : Relation.TransGen (WaitsFor owner queue) a b) :
    ∃ wanted held, a ∈ queue wanted ∧ owner held = some b ∧ wanted ≤ held := by
  induction hab with
  | single hlast =>
    obtain ⟨k, ha, hb⟩ := hlast
    exact ⟨k, k, ha, hb, le_refl k⟩
  | tail _ hlast ih =>
    obtain ⟨wanted, held, ha, hheld, hle⟩ := ih
    obtain ⟨k, hk, hb⟩ := hlast
    exact ⟨wanted, k, ha, hb, hle.trans (h _ held k hheld hk).le⟩

theorem not_deadlocked_of_order [Preorder κ]
    (h : ∀ a held wanted, owner held = some a → a ∈ queue wanted → held < wanted) :
    ¬ Deadlocked owner queue := by
  rintro ⟨a, ha⟩
  obtain ⟨wanted, held, hwanted, hheld, hle⟩ := exists_le_of_chain h ha
  exact lt_irrefl _ ((h a held wanted hheld hwanted).trans_le hle)

end Library
