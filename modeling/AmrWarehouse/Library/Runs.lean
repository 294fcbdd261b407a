import Mathlib.Tactic

/-! Runs of a machine that takes one operation after another. A guard restricts which operations a
run may take in which states. -/

namespace Library

variable {σ ο : Type} (step : σ → ο → σ)

def runAll (s : σ) (ops : List ο) : σ := ops.foldl step s

@[simp] lemma runAll_nil (s : σ) : runAll step s [] = s := rfl

@[simp] lemma runAll_cons (s : σ) (o : ο) (ops : List ο) :
    runAll step s (o :: ops) = runAll step (step s o) ops := rfl

def Guarded (guard : σ → ο → Prop) : σ → List ο → Prop
  | _, [] => True
  | s, o :: ops => guard s o ∧ Guarded guard (step s o) ops

instance decidableGuarded {guard : σ → ο → Prop} [∀ s o, Decidable (guard s o)] :
    ∀ (s : σ) (ops : List ο), Decidable (Guarded step guard s ops)
  | _, [] => inferInstanceAs (Decidable True)
  | s, o :: ops =>
    @instDecidableAnd _ _ inferInstance (decidableGuarded (step s o) ops)

def Always (P : σ → Prop) : σ → List ο → Prop
  | s, [] => P s
  | s, o :: ops => P s ∧ Always P (step s o) ops

def Reachable (guard : σ → ο → Prop) (init s : σ) : Prop :=
  ∃ ops, Guarded step guard init ops ∧ runAll step init ops = s

variable {step} {guard : σ → ο → Prop} {I P : σ → Prop}

lemma runAll_append (s : σ) (ops later : List ο) :
    runAll step s (ops ++ later) = runAll step (runAll step s ops) later :=
  List.foldl_append

/-- An invariant may speak of the operations taken so far. -/
lemma runAll_invariant (I : List ο → σ → Prop) {s : σ} (h0 : I [] s)
    (hs : ∀ past o, I past (runAll step s past) →
      I (past ++ [o]) (step (runAll step s past) o)) (ops : List ο) :
    I ops (runAll step s ops) := by
  induction ops using List.reverseRecOn with
  | nil => exact h0
  | append_singleton past o ih =>
    rw [runAll_append]
    exact hs past o ih

lemma guarded_of_forall (h : ∀ s o, guard s o) (s : σ) (ops : List ο) :
    Guarded step guard s ops := by
  induction ops generalizing s with
  | nil => trivial
  | cons o ops ih => exact ⟨h s o, ih (step s o)⟩

lemma guarded_of_forall_mem {ops : List ο} (h : ∀ o ∈ ops, ∀ s, guard s o) (s : σ) :
    Guarded step guard s ops := by
  induction ops generalizing s with
  | nil => trivial
  | cons o ops ih =>
    exact ⟨h o List.mem_cons_self s, ih (fun p hp => h p (List.mem_cons_of_mem o hp)) (step s o)⟩

lemma guarded_append {s : σ} {ops later : List ο} :
    Guarded step guard s (ops ++ later) ↔
      Guarded step guard s ops ∧ Guarded step guard (runAll step s ops) later := by
  induction ops generalizing s with
  | nil => simp [Guarded]
  | cons o ops ih => simp [Guarded, ih, and_assoc]

lemma Guarded.and {other : σ → ο → Prop} {s : σ} {ops : List ο} (h : Guarded step guard s ops)
    (h' : Guarded step other s ops) : Guarded step (fun s o => guard s o ∧ other s o) s ops := by
  induction ops generalizing s with
  | nil => trivial
  | cons o ops ih => exact ⟨⟨h.1, h'.1⟩, ih h.2 h'.2⟩

lemma Guarded.mono {other : σ → ο → Prop} {s : σ} {ops : List ο} (h : Guarded step guard s ops)
    (himp : ∀ s o, guard s o → other s o) : Guarded step other s ops := by
  induction ops generalizing s with
  | nil => trivial
  | cons o ops ih => exact ⟨himp s o h.1, ih h.2⟩

lemma Guarded.invariant (I : σ → Prop) (hs : ∀ s o, I s → guard s o → I (step s o)) {s : σ}
    {ops : List ο} (h : Guarded step guard s ops) (h0 : I s) : I (runAll step s ops) := by
  induction ops generalizing s with
  | nil => exact h0
  | cons o ops ih => exact ih h.2 (hs s o h0 h.1)

lemma Guarded.always (I : σ → Prop) (hs : ∀ s o, I s → guard s o → I (step s o)) {s : σ}
    {ops : List ο} (h : Guarded step guard s ops) (h0 : I s) : Always step I s ops := by
  induction ops generalizing s with
  | nil => exact h0
  | cons o ops ih => exact ⟨h0, ih h.2 (hs s o h0 h.1)⟩

lemma Always.mono {s : σ} {ops : List ο} (h : Always step I s ops) (hip : ∀ s, I s → P s) :
    Always step P s ops := by
  induction ops generalizing s with
  | nil => exact hip s h
  | cons o ops ih => exact ⟨hip s h.1, ih h.2⟩

lemma Reachable.invariant (I : σ → Prop) {init s : σ} (h : Reachable step guard init s)
    (h0 : I init) (hs : ∀ s o, I s → guard s o → I (step s o)) : I s := by
  obtain ⟨ops, hg, rfl⟩ := h
  exact hg.invariant I hs h0

/-- Where the guard says exactly which steps keep `P`, the runs on which `P` always holds are the
guarded ones. -/
lemma always_iff_guarded (I : σ → Prop) {allowed : σ → ο → Prop}
    (hi : ∀ s o, I s → allowed s o → I (step s o))
    (hp : ∀ s o, I s → allowed s o → P s → (P (step s o) ↔ guard s o)) {s : σ} {ops : List ο}
    (h0 : I s) (hs : P s) (hops : Guarded step allowed s ops) :
    Always step P s ops ↔ Guarded step guard s ops := by
  induction ops generalizing s with
  | nil => simp [Always, Guarded, hs]
  | cons o ops ih =>
    obtain ⟨ho, hlater⟩ := hops
    simp only [Always, Guarded, hs, true_and]
    constructor
    · intro h
      have h1 : P (step s o) := by
        cases ops with
        | nil => exact h
        | cons _ _ => exact h.1
      exact ⟨(hp s o h0 ho hs).mp h1, (ih (hi s o h0 ho) h1 hlater).mp h⟩
    · rintro ⟨hg, h⟩
      exact (ih (hi s o h0 ho) ((hp s o h0 ho hs).mpr hg) hlater).mpr h

lemma guarded_iff_guarded (I : σ → Prop) {other : σ → ο → Prop} {allowed : ο → Prop}
    (hi : ∀ s o, I s → allowed o → guard s o → I (step s o))
    (hp : ∀ s o, I s → allowed o → (other s o ↔ guard s o)) {s : σ} {ops : List ο} (h0 : I s)
    (hops : ∀ o ∈ ops, allowed o) : Guarded step other s ops ↔ Guarded step guard s ops := by
  induction ops generalizing s with
  | nil => simp [Guarded]
  | cons o ops ih =>
    have ho := hops o List.mem_cons_self
    have hlater := fun later hlater => hops later (List.mem_cons_of_mem o hlater)
    simp only [Guarded, hp s o h0 ho]
    constructor
    · rintro ⟨hg, h⟩
      exact ⟨hg, (ih (hi s o h0 ho hg) hlater).mp h⟩
    · rintro ⟨hg, h⟩
      exact ⟨hg, (ih (hi s o h0 ho hg) hlater).mpr h⟩

section History

variable {η : Type} (step) (record : σ → σ → η → η)

/-- What a recorder that sees the state before and after every step has in the end. -/
def historyOf : σ → η → List ο → η
  | _, h, [] => h
  | s, h, o :: ops => historyOf (step s o) (record s (step s o) h) ops

variable {step record}

lemma Guarded.history_invariant (I : σ → η → Prop)
    (hs : ∀ s h o, I s h → guard s o → I (step s o) (record s (step s o) h)) {s : σ} {h : η}
    {ops : List ο} (hops : Guarded step guard s ops) (h0 : I s h) :
    I (runAll step s ops) (historyOf step record s h ops) := by
  induction ops generalizing s h with
  | nil => exact h0
  | cons o ops ih => exact ih hops.2 (hs s h o h0 hops.1)

end History

section Labelled

variable {ν ℓ : Type} {move : ν → ℓ → ν → Prop} {allowed : ν → ℓ → Prop}

def Moves (move : ν → ℓ → ν → Prop) (allowed : ν → ℓ → Prop) : ν → ν → Prop :=
  Relation.ReflTransGen fun v w => ∃ l, allowed v l ∧ move v l w

lemma Moves.refl (v : ν) : Moves move allowed v v := Relation.ReflTransGen.refl

lemma Moves.trans {u v w : ν} (h : Moves move allowed u v) (h' : Moves move allowed v w) :
    Moves move allowed u w := Relation.ReflTransGen.trans h h'

lemma Moves.single {v w : ν} {l : ℓ} (ha : allowed v l) (h : move v l w) :
    Moves move allowed v w := Relation.ReflTransGen.single ⟨l, ha, h⟩

lemma Moves.invariant (I : ν → Prop) (hs : ∀ v l w, I v → allowed v l → move v l w → I w)
    {v w : ν} (h : Moves move allowed v w) (hv : I v) : I w := by
  induction h with
  | refl => exact hv
  | tail _ hlast ih =>
    obtain ⟨l, hl, hmove⟩ := hlast
    exact hs _ l _ ih hl hmove

end Labelled

end Library
