import Mathlib.Tactic

/-! Calls that may raise. An exception keeps the writes made before it, so a call has a final state
whether it returns or not. -/

namespace Library

variable {ε σ τ α β : Type}

def final (m : EStateM ε σ α) (s : σ) : σ :=
  match m.run s with
  | .ok _ t => t
  | .error _ t => t

def raises (m : EStateM ε σ α) (s : σ) : Bool :=
  match m.run s with
  | .ok _ _ => false
  | .error _ _ => true

def raised (m : EStateM ε σ α) (s : σ) : Option ε :=
  match m.run s with
  | .ok _ _ => none
  | .error e _ => some e

def focus (get : σ → τ) (put : τ → σ → σ) (m : EStateM ε τ α) : EStateM ε σ α := fun s =>
  match m.run (get s) with
  | .ok a t => .ok a (put t s)
  | .error e t => .error e (put t s)

def attempt (m : EStateM ε σ α) : EStateM ε σ (Except ε α) := fun s =>
  match m.run s with
  | .ok a t => .ok (.ok a) t
  | .error e t => .ok (.error e) t

def mapError {ε' : Type} (f : ε → ε') (m : EStateM ε σ α) : EStateM ε' σ α := fun s =>
  match m.run s with
  | .ok a t => .ok a t
  | .error e t => .error (f e) t

def orRaise (x : Except ε α) : EStateM ε σ α := fun s =>
  match x with
  | .ok a => .ok a s
  | .error e => .error e s

def whenever (c : Prop) [Decidable c] (m : EStateM ε σ Unit) : EStateM ε σ Unit :=
  if c then m else pure ()

@[simp] lemma run_raise (e : ε) (s : σ) : (throw e : EStateM ε σ α).run s = .error e s := rfl

@[simp] lemma run_orRaise_ok (a : α) (s : σ) :
    (orRaise (.ok a : Except ε α) : EStateM ε σ α).run s = .ok a s := rfl

@[simp] lemma run_orRaise_error (e : ε) (s : σ) :
    (orRaise (.error e : Except ε α) : EStateM ε σ α).run s = .error e s := rfl

@[simp] lemma run_map (f : α → β) (m : EStateM ε σ α) (s : σ) :
    (f <$> m).run s =
      match m.run s with
      | .ok a t => .ok (f a) t
      | .error e t => .error e t := rfl

@[simp] lemma raises_map (f : α → β) (m : EStateM ε σ α) (s : σ) :
    raises (f <$> m) s = raises m s := by
  rw [raises, raises, run_map]
  cases m.run s <;> rfl

lemma raises_congr {m n : EStateM ε σ α} {s t : σ} (h : m.run s = n.run t) :
    raises m s = raises n t := by
  rw [raises, h, raises]

lemma final_congr {m n : EStateM ε σ α} {s t : σ} (h : m.run s = n.run t) :
    final m s = final n t := by
  rw [final, h, final]

lemma run_discard (m : EStateM ε σ α) (s : σ) :
    (discard m).run s =
      match m.run s with
      | .ok _ t => .ok () t
      | .error e t => .error e t := by
  change (_ <$> m).run s = _
  rw [run_map]

@[simp] lemma final_discard (m : EStateM ε σ α) (s : σ) : final (discard m) s = final m s := by
  rw [final, final, run_discard]
  cases m.run s <;> rfl

lemma final_of_ok {m : EStateM ε σ α} {s t : σ} {a : α} (h : m.run s = .ok a t) :
    final m s = t := by
  simp [final, h]

lemma final_of_error {m : EStateM ε σ α} {s t : σ} {e : ε} (h : m.run s = .error e t) :
    final m s = t := by
  simp [final, h]

lemma raises_of_ok {m : EStateM ε σ α} {s t : σ} {a : α} (h : m.run s = .ok a t) :
    raises m s = false := by
  simp [raises, h]

lemma exists_of_returns {m : EStateM ε σ α} {s : σ} (h : raises m s = false) :
    ∃ a t, m.run s = .ok a t := by
  rw [raises] at h
  cases hrun : m.run s with
  | ok a t => exact ⟨a, t, rfl⟩
  | error e t => simp [hrun] at h

lemma run_of_forgotten {m : EStateM ε σ α} {s t : σ} {u : Unit}
    (h : (m >>= fun _ => pure ()).run s = .ok u t) : ∃ a, m.run s = .ok a t := by
  rw [EStateM.run_bind] at h
  cases hrun : m.run s with
  | ok a t' =>
    obtain ⟨-, rfl⟩ : () = u ∧ t' = t := by simpa [hrun] using h
    exact ⟨a, rfl⟩
  | error e t' => simp [hrun] at h

@[simp] lemma raises_forgotten (m : EStateM ε σ α) (s : σ) :
    raises (m >>= fun _ => (pure () : EStateM ε σ Unit)) s = raises m s := by
  rw [raises, raises, EStateM.run_bind]
  cases m.run s with
  | ok a t => rfl
  | error e t => rfl

@[simp] lemma final_forgotten (m : EStateM ε σ α) (s : σ) :
    final (m >>= fun _ => (pure () : EStateM ε σ Unit)) s = final m s := by
  rw [final, final, EStateM.run_bind]
  cases m.run s with
  | ok a t => rfl
  | error e t => rfl

lemma exists_of_raises {m : EStateM ε σ α} {s : σ} (h : raises m s = true) :
    ∃ e t, m.run s = .error e t := by
  rw [raises] at h
  cases hrun : m.run s with
  | ok a t => simp [hrun] at h
  | error e t => exact ⟨e, t, rfl⟩

lemma run_focus (get : σ → τ) (put : τ → σ → σ) (m : EStateM ε τ α) (s : σ) :
    (focus get put m).run s =
      match m.run (get s) with
      | .ok a t => .ok a (put t s)
      | .error e t => .error e (put t s) := rfl

@[simp] lemma final_focus (get : σ → τ) (put : τ → σ → σ) (m : EStateM ε τ α) (s : σ) :
    final (focus get put m) s = put (final m (get s)) s := by
  simp only [final, run_focus]
  cases m.run (get s) <;> rfl

lemma run_mapError {ε' : Type} (f : ε → ε') (m : EStateM ε σ α) (s : σ) :
    (mapError f m).run s =
      match m.run s with
      | .ok a t => .ok a t
      | .error e t => .error (f e) t := rfl

lemma run_attempt (m : EStateM ε σ α) (s : σ) :
    (attempt m).run s =
      match m.run s with
      | .ok a t => .ok (.ok a) t
      | .error e t => .ok (.error e) t := rfl

lemma mapM_cons_ok {f : α → Except ε β} {x : α} {xs : List α} {ys : List β}
    (h : (x :: xs).mapM f = .ok ys) :
    ∃ y zs, f x = .ok y ∧ xs.mapM f = .ok zs ∧ ys = y :: zs := by
  rw [List.mapM_cons] at h
  cases hx : f x with
  | error e => simp [hx, bind, Except.bind] at h
  | ok y =>
    cases hxs : xs.mapM f with
    | error e => simp [hx, hxs, bind, Except.bind] at h
    | ok zs =>
      simp only [hx, hxs, bind, Except.bind, pure, Except.pure, Except.ok.injEq] at h
      exact ⟨y, zs, rfl, rfl, h.symm⟩

lemma exists_of_mem_mapM {f : α → Except ε β} {xs : List α} {ys : List β} {y : β}
    (h : xs.mapM f = .ok ys) (hy : y ∈ ys) : ∃ x ∈ xs, f x = .ok y := by
  induction xs generalizing ys with
  | nil =>
    simp only [List.mapM_nil, pure, Except.pure, Except.ok.injEq] at h
    simp [← h] at hy
  | cons x xs ih =>
    obtain ⟨z, zs, hx, hxs, rfl⟩ := mapM_cons_ok h
    rcases List.mem_cons.mp hy with rfl | hy
    · exact ⟨x, List.mem_cons_self, hx⟩
    · obtain ⟨w, hw, hfw⟩ := ih hxs hy
      exact ⟨w, List.mem_cons_of_mem x hw, hfw⟩

lemma exists_of_mapM_error {f : α → Except ε β} {xs : List α} {e : ε}
    (h : xs.mapM f = .error e) : ∃ x ∈ xs, f x = .error e := by
  induction xs with
  | nil => simp [pure, Except.pure] at h
  | cons x xs ih =>
    rw [List.mapM_cons] at h
    cases hx : f x with
    | error e' =>
      simp only [hx, bind, Except.bind, Except.error.injEq] at h
      exact ⟨x, List.mem_cons_self, h ▸ hx⟩
    | ok y =>
      cases hxs : xs.mapM f with
      | ok ys => simp [hx, hxs, bind, Except.bind, pure, Except.pure] at h
      | error e' =>
        simp only [hx, hxs, bind, Except.bind, Except.error.injEq] at h
        obtain ⟨z, hz, hfz⟩ := ih (h ▸ hxs)
        exact ⟨z, List.mem_cons_of_mem x hz, hfz⟩

lemma exists_of_mapM_ok {f : α → Except ε β} {xs : List α} {ys : List β} {x : α}
    (h : xs.mapM f = .ok ys) (hx : x ∈ xs) : ∃ y, f x = .ok y := by
  induction xs generalizing ys with
  | nil => simp at hx
  | cons z zs ih =>
    obtain ⟨y, ys', hz, hzs, rfl⟩ := mapM_cons_ok h
    rcases List.mem_cons.mp hx with rfl | hx
    · exact ⟨y, hz⟩
    · exact ih hzs hx

lemma mapM_ok {f : α → Except ε β} {xs : List α} (h : ∀ x ∈ xs, ∃ y, f x = .ok y) :
    ∃ ys, xs.mapM f = .ok ys := by
  induction xs with
  | nil => exact ⟨[], rfl⟩
  | cons x xs ih =>
    obtain ⟨y, hy⟩ := h x List.mem_cons_self
    obtain ⟨ys, hys⟩ := ih fun z hz => h z (List.mem_cons_of_mem x hz)
    rw [List.mapM_cons, hy, hys]
    exact ⟨_, rfl⟩

lemma mapM_map_ok {f : β → Except ε α} {g : α → β} (h : ∀ x, f (g x) = .ok x) (xs : List α) :
    (xs.map g).mapM f = .ok xs := by
  induction xs with
  | nil => rfl
  | cons x xs ih =>
    rw [List.map_cons, List.mapM_cons, h x, ih]
    rfl

lemma run_of_raised {m : EStateM ε σ α} {s : σ} {e : ε} (h : raised m s = some e) :
    m.run s = .error e (final m s) := by
  rw [raised] at h
  rw [final]
  cases hrun : m.run s with
  | ok a t => simp [hrun] at h
  | error e' t =>
    rw [hrun] at h
    rw [Option.some.inj h]

/-- The call returns into `Q` or raises into `E`. -/
def Ends (m : EStateM ε σ α) (s : σ) (Q : α → σ → Prop) (E : σ → Prop) : Prop :=
  match m.run s with
  | .ok a t => Q a t
  | .error _ t => E t

section Ends

variable {m : EStateM ε σ α} {s t : σ} {Q : α → σ → Prop} {E : σ → Prop}

lemma ends_of_ok {a : α} (h : m.run s = .ok a t) (hq : Q a t) : Ends m s Q E := by
  rw [Ends, h]
  exact hq

lemma ends_of_error {e : ε} (h : m.run s = .error e t) (he : E t) : Ends m s Q E := by
  rw [Ends, h]
  exact he

@[simp] lemma ends_pure (a : α) : Ends (pure a : EStateM ε σ α) s Q E ↔ Q a s := Iff.rfl

@[simp] lemma ends_throw (e : ε) : Ends (throw e : EStateM ε σ α) s Q E ↔ E s := Iff.rfl

@[simp] lemma ends_get {Q : σ → σ → Prop} : Ends (get : EStateM ε σ σ) s Q E ↔ Q s s := Iff.rfl

@[simp] lemma ends_set (t : σ) {Q : PUnit → σ → Prop} :
    Ends (set t : EStateM ε σ PUnit) s Q E ↔ Q ⟨⟩ t := Iff.rfl

@[simp] lemma ends_modify (f : σ → σ) {Q : PUnit → σ → Prop} :
    Ends (modify f : EStateM ε σ PUnit) s Q E ↔ Q ⟨⟩ (f s) := Iff.rfl

@[simp] lemma ends_orRaise_ok (a : α) :
    Ends (orRaise (.ok a : Except ε α) : EStateM ε σ α) s Q E ↔ Q a s := Iff.rfl

@[simp] lemma ends_orRaise_error (e : ε) :
    Ends (orRaise (.error e : Except ε α) : EStateM ε σ α) s Q E ↔ E s := Iff.rfl

lemma ends_orRaise {x : Except ε α} (hok : ∀ a, x = .ok a → Q a s)
    (herror : ∀ e, x = .error e → E s) : Ends (orRaise x : EStateM ε σ α) s Q E := by
  cases x with
  | ok a => exact hok a rfl
  | error e => exact herror e rfl

@[simp] lemma ends_bind (f : α → EStateM ε σ β) {Q : β → σ → Prop} :
    Ends (m >>= f) s Q E ↔ Ends m s (fun a t => Ends (f a) t Q E) E := by
  simp only [Ends, EStateM.run_bind]
  cases m.run s <;> rfl

@[simp] lemma ends_map (f : α → β) {Q : β → σ → Prop} :
    Ends (f <$> m) s Q E ↔ Ends m s (fun a t => Q (f a) t) E := by
  simp only [Ends, run_map]
  cases m.run s <;> rfl

@[simp] lemma ends_discard {Q : PUnit → σ → Prop} :
    Ends (discard m) s Q E ↔ Ends m s (fun _ t => Q () t) E := by
  simp only [Ends, run_discard]
  cases m.run s <;> rfl

@[simp] lemma ends_focus {m : EStateM ε τ α} (get : σ → τ) (put : τ → σ → σ) :
    Ends (focus get put m) s Q E ↔
      Ends m (get s) (fun a t => Q a (put t s)) (fun t => E (put t s)) := by
  simp only [Ends, run_focus]
  cases m.run (get s) <;> rfl

@[simp] lemma ends_mapError {ε' : Type} (f : ε → ε') :
    Ends (mapError f m) s Q E ↔ Ends m s Q E := by
  simp only [Ends, run_mapError]
  cases m.run s <;> rfl

lemma ends_whenever {c : Prop} [Decidable c] {m : EStateM ε σ Unit} {Q : Unit → σ → Prop}
    (hc : c → Ends m s Q E) (hn : ¬ c → Q () s) : Ends (whenever c m) s Q E := by
  rw [whenever]
  split_ifs with h
  · exact hc h
  · exact hn h

lemma ends_attempt_of_ok {Q : Except ε α → σ → Prop}
    (h : Ends m s (fun a t => Q (.ok a) t) (fun _ => False)) : Ends (attempt m) s Q E := by
  rw [Ends] at h ⊢
  rw [run_attempt]
  cases hrun : m.run s with
  | ok a t => simpa only [hrun] using h
  | error e t => simp [hrun] at h

lemma ends_attempt_of_error {e : ε} {Q : Except ε α → σ → Prop} (h : m.run s = .error e t)
    (hq : Q (.error e) t) : Ends (attempt m) s Q E := by
  rw [Ends]
  rw [run_attempt, h]
  exact hq

lemma ends_self : Ends m s (fun _ t => t = final m s) (fun t => t = final m s) := by
  rw [Ends, final]
  cases m.run s <;> rfl

lemma ends_of_final (hq : raises m s = false → ∀ a, Q a (final m s))
    (he : raises m s = true → E (final m s)) : Ends m s Q E := by
  rw [Ends]
  rw [raises, final] at hq he
  cases hrun : m.run s with
  | ok a t =>
    rw [hrun] at hq
    exact hq rfl a
  | error e t =>
    rw [hrun] at he
    exact he rfl

lemma Ends.run_ok (h : Ends m s Q (fun _ => False)) : ∃ a t, m.run s = .ok a t ∧ Q a t := by
  rw [Ends] at h
  cases hrun : m.run s with
  | ok a t =>
    rw [hrun] at h
    exact ⟨a, t, rfl, h⟩
  | error e t =>
    rw [hrun] at h
    exact h.elim

lemma Ends.mono {Q' : α → σ → Prop} {E' : σ → Prop} (h : Ends m s Q E)
    (hq : ∀ a t, Q a t → Q' a t) (he : ∀ t, E t → E' t) : Ends m s Q' E' := by
  rw [Ends] at h ⊢
  cases hrun : m.run s with
  | ok a t =>
    rw [hrun] at h
    exact hq a t h
  | error e t =>
    rw [hrun] at h
    exact he t h

lemma ends_mapM {f : α → EStateM ε σ β} (I : List α → List β → σ → Prop) {xs : List α}
    (h0 : I [] [] s)
    (hf : ∀ seen ys x rest t, xs = seen ++ x :: rest → I seen ys t →
      Ends (f x) t (fun y u => I (seen ++ [x]) (ys ++ [y]) u) E) :
    Ends (xs.mapM f) s (fun ys t => I xs ys t) E := by
  suffices h : ∀ rest seen ys s, xs = seen ++ rest → I seen ys s →
      Ends (rest.mapM f) s (fun zs t => I xs (ys ++ zs) t) E from h xs [] [] s rfl h0
  intro rest
  induction rest with
  | nil =>
    intro seen ys s hxs hi
    rw [List.append_nil] at hxs
    rw [List.mapM_nil, ends_pure, List.append_nil, hxs]
    exact hi
  | cons x rest ih =>
    intro seen ys s hxs hi
    rw [List.mapM_cons, ends_bind]
    refine (hf seen ys x rest s hxs hi).mono ?_ (fun _ he => he)
    intro y t hy
    rw [ends_bind]
    refine (ih (seen ++ [x]) (ys ++ [y]) t (by rw [hxs]; simp) hy).mono ?_ (fun _ he => he)
    intro zs u hzs
    rw [ends_pure]
    simpa using hzs

lemma Ends.and {Q' : α → σ → Prop} {E' : σ → Prop} (h : Ends m s Q E) (h' : Ends m s Q' E') :
    Ends m s (fun a t => Q a t ∧ Q' a t) (fun t => E t ∧ E' t) := by
  rw [Ends] at h h' ⊢
  cases hrun : m.run s with
  | ok a t =>
    rw [hrun] at h h'
    exact ⟨h, h'⟩
  | error e t =>
    rw [hrun] at h h'
    exact ⟨h, h'⟩

lemma Ends.final {P : σ → Prop} (h : Ends m s (fun _ t => P t) P) : P (final m s) := by
  rw [Ends] at h
  rw [Library.final]
  cases hrun : m.run s <;> simpa only [hrun] using h

lemma Ends.of_ok {a : α} (h : Ends m s Q E) (hrun : m.run s = .ok a t) : Q a t := by
  rw [Ends, hrun] at h
  exact h

lemma Ends.of_error {e : ε} (h : Ends m s Q E) (hrun : m.run s = .error e t) : E t := by
  rw [Ends, hrun] at h
  exact h

lemma Ends.final_or (h : Ends m s Q E) :
    (∃ a, Q a (Library.final m s)) ∨ E (Library.final m s) := by
  rw [Ends] at h
  rw [Library.final]
  cases hrun : m.run s with
  | ok a t =>
    rw [hrun] at h
    exact Or.inl ⟨a, h⟩
  | error e t =>
    rw [hrun] at h
    exact Or.inr h

lemma Ends.of_raises (h : Ends m s Q E) (hr : raises m s = true) : E (Library.final m s) := by
  rw [Ends] at h
  rw [Library.raises] at hr
  rw [Library.final]
  cases hrun : m.run s with
  | ok a t => simp [hrun] at hr
  | error e t => simpa only [hrun] using h

lemma Ends.of_returns (h : Ends m s Q E) (hr : raises m s = false) :
    ∃ a, Q a (Library.final m s) := by
  rw [Ends] at h
  rw [Library.raises] at hr
  rw [Library.final]
  cases hrun : m.run s with
  | ok a t =>
    rw [hrun] at h
    exact ⟨a, h⟩
  | error e t => simp [hrun] at hr

end Ends

/-- From a state with `I` the call ends in one, whether it returns or raises. -/
def Preserves (I : σ → Prop) (m : EStateM ε σ α) : Prop :=
  ∀ s, I s → Ends m s (fun _ t => I t) I

section Preserves

variable {I : σ → Prop}

lemma Preserves.final {m : EStateM ε σ α} (h : Preserves I m) {s : σ} (hs : I s) :
    I (final m s) :=
  (h s hs).final

lemma preserves_pure (a : α) : Preserves I (pure a : EStateM ε σ α) := fun _ hs => hs

lemma preserves_throw (e : ε) : Preserves I (throw e : EStateM ε σ α) := fun _ hs => hs

lemma preserves_get : Preserves I (get : EStateM ε σ σ) := fun _ hs => hs

lemma preserves_orRaise (x : Except ε α) : Preserves I (orRaise x : EStateM ε σ α) := by
  intro s hs
  cases x with
  | ok a => exact hs
  | error e => exact hs

lemma preserves_modify {f : σ → σ} (h : ∀ s, I s → I (f s)) :
    Preserves I (modify f : EStateM ε σ PUnit) := h

lemma preserves_bind {m : EStateM ε σ α} {f : α → EStateM ε σ β} (hm : Preserves I m)
    (hf : ∀ a, Preserves I (f a)) : Preserves I (m >>= f) := by
  intro s hs
  rw [ends_bind]
  apply (hm s hs).mono
  · exact fun a t ht => hf a t ht
  · exact fun _ ht => ht

lemma Preserves.bind_ends {m : EStateM ε σ α} {f : α → EStateM ε σ β} (hm : Preserves I m) {s : σ}
    {Q : β → σ → Prop} (hs : I s) (hf : ∀ a t, I t → Ends (f a) t Q I) : Ends (m >>= f) s Q I := by
  rw [ends_bind]
  exact (hm s hs).mono (fun a t ht => hf a t ht) (fun _ ht => ht)

lemma preserves_attempt {m : EStateM ε σ α} (h : Preserves I m) : Preserves I (attempt m) := by
  intro s hs
  have hends := h s hs
  rw [Ends] at hends ⊢
  rw [run_attempt]
  cases hrun : m.run s with
  | ok a t =>
    rw [hrun] at hends
    exact hends
  | error e t =>
    rw [hrun] at hends
    exact hends

lemma preserves_whenever {c : Prop} [Decidable c] {m : EStateM ε σ Unit} (h : Preserves I m) :
    Preserves I (whenever c m) :=
  fun s hs => ends_whenever (fun _ => h s hs) (fun _ => hs)

lemma preserves_ite {c : Prop} [Decidable c] {m n : EStateM ε σ α} (hm : c → Preserves I m)
    (hn : ¬ c → Preserves I n) : Preserves I (if c then m else n) := by
  split_ifs with h
  · exact hm h
  · exact hn h

lemma preserves_focus {get : σ → τ} {put : τ → σ → σ} {J : τ → Prop} {m : EStateM ε τ α}
    (hm : Preserves J m) (hget : ∀ s, I s → J (get s)) (hput : ∀ s t, J t → I (put t s)) :
    Preserves I (focus get put m) := by
  intro s hs
  rw [ends_focus]
  apply (hm (get s) (hget s hs)).mono
  · exact fun _ t ht => hput s t ht
  · exact fun t ht => hput s t ht

end Preserves

end Library
