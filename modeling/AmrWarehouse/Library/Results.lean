import AmrWarehouse.Library.Calls

/-! Calls whose exceptions matter: what a call raises is described along with the state it leaves.
The loop of a call is left by a value or by an exception. -/

namespace Library

variable {ε σ τ α β : Type}

/-- The call returns into `Q` or raises into `R`. -/
def Results (m : EStateM ε σ α) (s : σ) (Q : α → σ → Prop) (R : ε → σ → Prop) : Prop :=
  match m.run s with
  | .ok a t => Q a t
  | .error e t => R e t

def outcome (m : EStateM ε σ α) (s : σ) : Except ε α :=
  match m.run s with
  | .ok a _ => .ok a
  | .error e _ => .error e

section Results

variable {m : EStateM ε σ α} {s t : σ} {Q : α → σ → Prop} {R : ε → σ → Prop}

@[simp] lemma results_pure (a : α) : Results (pure a : EStateM ε σ α) s Q R ↔ Q a s := Iff.rfl

@[simp] lemma results_throw (e : ε) : Results (throw e : EStateM ε σ α) s Q R ↔ R e s := Iff.rfl

@[simp] lemma results_get {Q : σ → σ → Prop} :
    Results (get : EStateM ε σ σ) s Q R ↔ Q s s := Iff.rfl

@[simp] lemma results_set (t : σ) {Q : PUnit → σ → Prop} :
    Results (set t : EStateM ε σ PUnit) s Q R ↔ Q ⟨⟩ t := Iff.rfl

@[simp] lemma results_modify (f : σ → σ) {Q : PUnit → σ → Prop} :
    Results (modify f : EStateM ε σ PUnit) s Q R ↔ Q ⟨⟩ (f s) := Iff.rfl

@[simp] lemma results_bind (f : α → EStateM ε σ β) {Q : β → σ → Prop} :
    Results (m >>= f) s Q R ↔ Results m s (fun a t => Results (f a) t Q R) R := by
  simp only [Results, EStateM.run_bind]
  cases m.run s <;> rfl

lemma results_ite {c : Prop} [Decidable c] {n : EStateM ε σ α} :
    Results (if c then m else n) s Q R ↔
      (c → Results m s Q R) ∧ (¬ c → Results n s Q R) := by
  split_ifs with h
  · simp [h]
  · simp [h]

lemma Results.mono {Q' : α → σ → Prop} {R' : ε → σ → Prop} (h : Results m s Q R)
    (hq : ∀ a t, Q a t → Q' a t) (hr : ∀ e t, R e t → R' e t) : Results m s Q' R' := by
  rw [Results] at h ⊢
  cases hrun : m.run s with
  | ok a t =>
    rw [hrun] at h
    exact hq a t h
  | error e t =>
    rw [hrun] at h
    exact hr e t h

lemma Results.of_ok {a : α} (h : Results m s Q R) (hrun : m.run s = .ok a t) : Q a t := by
  rw [Results, hrun] at h
  exact h

lemma Results.of_error {e : ε} (h : Results m s Q R) (hrun : m.run s = .error e t) : R e t := by
  rw [Results, hrun] at h
  exact h

lemma Results.of_outcome_ok {a : α} (h : Results m s Q R) (ha : outcome m s = .ok a) :
    Q a (final m s) := by
  rw [Results] at h
  rw [outcome] at ha
  rw [final]
  cases hrun : m.run s with
  | ok b t =>
    rw [hrun] at h ha
    exact Except.ok.inj ha ▸ h
  | error e t => simp [hrun] at ha

lemma Ends.of_outcome_ok {E : σ → Prop} {a : α} (h : Ends m s Q E) (ha : outcome m s = .ok a) :
    Q a (Library.final m s) :=
  Results.of_outcome_ok (R := fun _ => E) h ha

lemma Results.final {P : σ → Prop} (h : Results m s (fun _ t => P t) (fun _ t => P t)) :
    P (final m s) := by
  rw [Results] at h
  rw [Library.final]
  cases hrun : m.run s <;> simpa only [hrun] using h

end Results

/-- Takes a turn of the loop until one gives a value; `stuck` stands for running out of turns. -/
def loop (turn : EStateM ε σ (Option α)) (stuck : ε) : ℕ → EStateM ε σ α
  | 0 => throw stuck
  | turns + 1 => do
    match ← turn with
    | some a => return a
    | none => loop turn stuck turns

/-- The invariant of a loop knows of the turns left. -/
lemma results_loop {turn : EStateM ε σ (Option α)} {stuck : ε} {Q : α → σ → Prop}
    {R : ε → σ → Prop} (I : ℕ → σ → Prop)
    (hturn : ∀ turns s, I (turns + 1) s → Results turn s
      (fun r t => (∀ a, r = some a → Q a t) ∧ (r = none → I turns t)) R)
    (hstuck : ∀ s, I 0 s → R stuck s) {turns : ℕ} {s : σ} (hs : I turns s) :
    Results (loop turn stuck turns) s Q R := by
  induction turns generalizing s with
  | zero => exact hstuck s hs
  | succ turns ih =>
    rw [loop, results_bind]
    refine (hturn turns s hs).mono ?_ (fun _ _ h => h)
    rintro r t ⟨hvalue, hnone⟩
    cases r with
    | some a => exact hvalue a rfl
    | none => exact ih (hnone rfl)

end Library
