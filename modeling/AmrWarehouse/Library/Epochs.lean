import Mathlib.Tactic

/-! Marks in a list that cuts divide. The newest entry stands first. -/

namespace Library

variable {α ι : Type} {cut e : α} {mark : ι → α} {entries trace : List α}

/-- `e` has been entered after the last `cut`. -/
def Since (cut e : α) : List α → Prop
  | [] => False
  | a :: trace => a = e ∨ (a ≠ cut ∧ Since cut e trace)

def OnceBetween (cut : α) (mark : ι → α) (trace : List α) : Prop :=
  ∀ between, between <:+: trace → cut ∉ between →
    ∀ i j, mark i ∈ between → mark j ∈ between → i = j

@[simp] lemma since_nil : ¬ Since cut e [] := id

@[simp] lemma since_cons {a : α} :
    Since cut e (a :: trace) ↔ a = e ∨ (a ≠ cut ∧ Since cut e trace) := Iff.rfl

lemma since_append :
    Since cut e (entries ++ trace) ↔ Since cut e entries ∨ (cut ∉ entries ∧ Since cut e trace) := by
  induction entries with
  | nil => simp
  | cons a entries ih =>
    rw [List.cons_append, since_cons, since_cons, ih, List.mem_cons, not_or]
    tauto

lemma mem_of_since (h : Since cut e trace) : e ∈ trace := by
  induction trace with
  | nil => exact h.elim
  | cons a trace ih =>
    rcases h with rfl | ⟨-, h⟩
    · exact List.mem_cons_self
    · exact List.mem_cons_of_mem a (ih h)

lemma since_of_mem (hcut : cut ∉ trace) (h : e ∈ trace) : Since cut e trace := by
  induction trace with
  | nil => simp at h
  | cons a trace ih =>
    rw [List.mem_cons, not_or] at hcut
    rcases List.mem_cons.mp h with rfl | h
    · exact Or.inl rfl
    · exact Or.inr ⟨Ne.symm hcut.1, ih hcut.2 h⟩

lemma onceBetween_nil : OnceBetween cut mark [] := by
  intro between hbetween _ i j hi _
  rw [List.infix_nil.mp hbetween] at hi
  simp at hi

lemma OnceBetween.cons {a : α} (h : OnceBetween cut mark trace)
    (hsince : ∀ i j, Since cut (mark i) (a :: trace) → Since cut (mark j) (a :: trace) → i = j) :
    OnceBetween cut mark (a :: trace) := by
  intro between hbetween hcut i j hi hj
  rcases List.infix_cons_iff.mp hbetween with ⟨before, hbegins⟩ | hinfix
  · rw [← hbegins] at hsince
    exact hsince i j (since_append.mpr (Or.inl (since_of_mem hcut hi)))
      (since_append.mpr (Or.inl (since_of_mem hcut hj)))
  · exact h between hinfix hcut i j hi hj

lemma OnceBetween.append (h : OnceBetween cut mark trace) (hentries : ∀ i, mark i ∉ entries) :
    OnceBetween cut mark (entries ++ trace) := by
  intro between hbetween hcut i j hi hj
  rcases List.infix_append_iff.mp hbetween with
    hnew | hold | ⟨later, earlier, rfl, hlater, hearlier⟩
  · exact (hentries i (hnew.subset hi)).elim
  · exact h between hold hcut i j hi hj
  · have hmark : ∀ k, mark k ∈ later ++ earlier → mark k ∈ earlier := by
      intro k hk
      rcases List.mem_append.mp hk with hk | hk
      · exact (hentries k (hlater.subset hk)).elim
      · exact hk
    refine h earlier hearlier.isInfix ?_ i j (hmark i hi) (hmark j hj)
    exact fun hmem => hcut (List.mem_append_right later hmem)

end Library
