import AmrWarehouse.Library.Results

/-! Calls that look, to whoever sees a part of the state, like a call on that part alone. -/

namespace Library

variable {ε ε' σ τ α β : Type} (view : σ → τ) (seen : ε → ε')

/-- From `s` the call `m` does to the part in view what `p` does. -/
def Refines (m : EStateM ε σ α) (s : σ) (p : EStateM ε' τ α) : Prop :=
  p.run (view s) =
    match m.run s with
    | .ok a t => .ok a (view t)
    | .error e t => .error (seen e) (view t)

variable {view seen} {m : EStateM ε σ α} {p : EStateM ε' τ α} {s : σ}

lemma refines_pure (a : α) :
    Refines view seen (pure a : EStateM ε σ α) s (pure a : EStateM ε' τ α) := rfl

lemma refines_throw {e : ε} {e' : ε'} (h : seen e = e') :
    Refines view seen (throw e : EStateM ε σ α) s (throw e' : EStateM ε' τ α) := by
  subst h
  rfl

lemma refines_get_bind {k : σ → EStateM ε σ α} {k' : τ → EStateM ε' τ α}
    (h : Refines view seen (k s) s (k' (view s))) :
    Refines view seen (get >>= k) s (get >>= k') := h

lemma Refines.bind {k : α → EStateM ε σ β} {k' : α → EStateM ε' τ β}
    (h : Refines view seen m s p)
    (hk : ∀ a t, m.run s = .ok a t → Refines view seen (k a) t (k' a)) :
    Refines view seen (m >>= k) s (p >>= k') := by
  rw [Refines] at h ⊢
  rw [EStateM.run_bind, EStateM.run_bind, h]
  cases hrun : m.run s with
  | ok a t => exact hk a t hrun
  | error e t => rfl

lemma refines_focus {put : τ → σ → σ} {raised : ε' → ε} (hput : ∀ t s, view (put t s) = t)
    (hraised : ∀ e, seen (raised e) = e) (p : EStateM ε' τ α) (s : σ) :
    Refines view seen (focus view put (mapError raised p)) s p := by
  rw [Refines, run_focus, run_mapError]
  cases p.run (view s) with
  | ok a t => simp [hput]
  | error e t => simp [hput, hraised]

lemma Refines.focus {ε₁ ε₁' σ₁ τ₁ : Type} {view₁ : σ₁ → τ₁} {seen₁ : ε₁ → ε₁'}
    {get : σ → σ₁} {put : σ₁ → σ → σ} {raised : ε₁ → ε} {get' : τ → τ₁} {put' : τ₁ → τ → τ}
    {raised' : ε₁' → ε'} {m : EStateM ε₁ σ₁ α} {p : EStateM ε₁' τ₁ α}
    (h : Refines view₁ seen₁ m (get s) p) (hget : view₁ (get s) = get' (view s))
    (hput : ∀ t, view (put t s) = put' (view₁ t) (view s))
    (hraised : ∀ e, seen (raised e) = raised' (seen₁ e)) :
    Refines view seen (Library.focus get put (mapError raised m)) s
      (Library.focus get' put' (mapError raised' p)) := by
  rw [Refines, hget] at h
  rw [Refines, run_focus, run_focus, run_mapError, run_mapError, h]
  cases m.run (get s) with
  | ok a t => simp [hput]
  | error e t => simp [hput, hraised]

lemma outcome_focus {get : σ → τ} {put : τ → σ → σ} (n : EStateM ε τ α) :
    outcome (focus get put n) s = outcome n (get s) := by
  rw [outcome, outcome, run_focus]
  cases n.run (get s) <;> rfl

lemma outcome_mapError (f : ε → ε') : outcome (mapError f m) s = (outcome m s).mapError f := by
  rw [outcome, outcome, run_mapError]
  cases m.run s <;> rfl

lemma refines_orRaise (hview : view (final m s) = view s) :
    Refines view seen m s (orRaise ((outcome m s).mapError seen)) := by
  rw [final] at hview
  rw [Refines, outcome]
  cases hrun : m.run s with
  | ok a t =>
    rw [hrun] at hview
    exact congrArg (EStateM.Result.ok a) hview.symm
  | error e t =>
    rw [hrun] at hview
    exact congrArg (EStateM.Result.error (seen e)) hview.symm

lemma refines_whenever {c : Prop} [Decidable c] {m : EStateM ε σ Unit} {p : EStateM ε' τ Unit}
    (h : c → Refines view seen m s p) :
    Refines view seen (whenever c m) s (whenever c p) := by
  rw [whenever, whenever]
  split_ifs with hc
  · exact h hc
  · exact refines_pure ()

lemma refines_ite {c : Prop} [Decidable c] {n : EStateM ε σ α} {q : EStateM ε' τ α}
    (hm : c → Refines view seen m s p) (hn : ¬ c → Refines view seen n s q) :
    Refines view seen (if c then m else n) s (if c then p else q) := by
  split_ifs with h
  · exact hm h
  · exact hn h

lemma Refines.ends (h : Refines view seen m s p) {Q : α → τ → Prop} {E : τ → Prop}
    (hends : Ends p (view s) Q E) :
    Ends m s (fun a t => Q a (view t)) (fun t => E (view t)) := by
  rw [Refines] at h
  rw [Ends, h] at hends
  rw [Ends]
  cases hrun : m.run s with
  | ok a t => simpa only [hrun] using hends
  | error e t => simpa only [hrun] using hends

end Library
