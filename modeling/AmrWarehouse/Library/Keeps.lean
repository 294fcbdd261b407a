import AmrWarehouse.Library.Calls

/-! Calls that leave what a view shows of the state alone, whether they return or raise. -/

namespace Library

variable {ε σ τ υ α β : Type} {view : σ → τ} {P : α → Prop} {R : β → Prop}

/-- The view stays, and what is returned satisfies `P`. -/
def Keeps (view : σ → τ) (m : EStateM ε σ α) (P : α → Prop) : Prop :=
  ∀ s, Ends m s (fun a t => view t = view s ∧ P a) (fun t => view t = view s)

namespace Keeps

variable {m : EStateM ε σ α} {f : α → EStateM ε σ β}

lemma pure {a : α} (h : P a) : Keeps view (Pure.pure a : EStateM ε σ α) P := fun _ => ⟨rfl, h⟩

lemma throw (e : ε) : Keeps view (MonadExcept.throw e : EStateM ε σ α) P := fun _ => rfl

lemma orRaise {x : Except ε α} (h : ∀ a, x = .ok a → P a) :
    Keeps view (Library.orRaise x : EStateM ε σ α) P := by
  intro s
  cases x with
  | ok a => exact ⟨rfl, h a rfl⟩
  | error e => rfl

lemma bind (hm : Keeps view m P) (hf : ∀ a, P a → Keeps view (f a) R) :
    Keeps view (m >>= f) R := by
  intro s
  rw [ends_bind]
  refine (hm s).mono ?_ (fun _ h => h)
  rintro a t ⟨hview, ha⟩
  refine (hf a ha t).mono ?_ ?_
  · rintro b u ⟨hview', hb⟩
    exact ⟨hview'.trans hview, hb⟩
  · exact fun u hview' => hview'.trans hview

lemma mapM {f : α → EStateM ε σ β} (hf : ∀ a, Keeps view (f a) R) (xs : List α) :
    Keeps view (xs.mapM f) fun _ => True := by
  intro s
  refine (ends_mapM (fun _ _ t => view t = view s) rfl ?_).mono (fun _ _ h => ⟨h, trivial⟩)
    (fun _ h => h)
  rintro seen ys x rest t - hview
  exact (hf x t).mono (fun _ _ h => h.1.trans hview) (fun _ h => h.trans hview)

lemma discard (hm : Keeps view m P) : Keeps view (Functor.discard m) fun _ => True := by
  intro s
  rw [ends_discard]
  exact (hm s).mono (fun _ _ h => ⟨h.1, trivial⟩) (fun _ h => h)

lemma attempt (hm : Keeps view m P) :
    Keeps view (Library.attempt m) fun r => ∀ a, r = .ok a → P a := by
  intro s
  have h := hm s
  rw [Ends] at h ⊢
  rw [run_attempt]
  cases hrun : m.run s with
  | ok a t =>
    rw [hrun] at h
    exact ⟨h.1, fun b hb => Except.ok.inj hb ▸ h.2⟩
  | error e t =>
    rw [hrun] at h
    refine ⟨h, fun b hb => ?_⟩
    cases hb

lemma mono {P' : α → Prop} (hm : Keeps view m P) (h : ∀ a, P a → P' a) : Keeps view m P' :=
  fun s => (hm s).mono (fun a _ ht => ⟨ht.1, h a ht.2⟩) (fun _ ht => ht)

lemma part {part : σ → υ} (g : τ → υ) (hm : Keeps view m P) (hg : ∀ s, g (view s) = part s) :
    Keeps part m P := by
  intro s
  refine (hm s).mono ?_ ?_
  · rintro a t ⟨hview, ha⟩
    exact ⟨by rw [← hg, hview, hg], ha⟩
  · intro t hview
    rw [← hg, hview, hg]

lemma final (hm : Keeps view m P) (s : σ) : view (Library.final m s) = view s :=
  ((hm s).mono (fun _ _ h => h.1) (fun _ h => h)).final

end Keeps

end Library
