import AmrWarehouse.Library.Calls
import AmrWarehouse.Library.Runs

/-! Programs that ask their surroundings one question after another. A program runs alone against
surroundings that keep a state, or in a crowd that shares one. -/

namespace Library

inductive Process (Q : Type) (A : Q → Type) (ε α : Type)
  | done (a : α)
  | raise (e : ε)
  | ask (q : Q) (next : Except ε (A q) → Process Q A ε α)

namespace Process

variable {Q : Type} {A : Q → Type} {ε σ α β : Type}

protected def bind (p : Process Q A ε α) (f : α → Process Q A ε β) : Process Q A ε β :=
  match p with
  | done a => f a
  | raise e => raise e
  | ask q next => ask q fun r => (next r).bind f

instance : Monad (Process Q A ε) where
  pure := done
  bind := Process.bind

def perform (q : Q) : Process Q A ε (A q) :=
  ask q fun r => match r with
    | .ok a => done a
    | .error e => raise e

def attempt : Process Q A ε α → Process Q A ε (Except ε α)
  | done a => done (.ok a)
  | raise e => done (.error e)
  | ask q next => ask q fun r => attempt (next r)

def orRaise : Except ε α → Process Q A ε α
  | .ok a => done a
  | .error e => raise e

def run (answer : ∀ q, EStateM ε σ (A q)) : Process Q A ε α → EStateM ε σ α
  | done a => pure a
  | raise e => throw e
  | ask q next => Library.attempt (answer q) >>= fun r => run answer (next r)

section Run

variable (answer : ∀ q, EStateM ε σ (A q))

@[simp] lemma run_done (a : α) : run answer (done a : Process Q A ε α) = pure a := rfl

@[simp] lemma run_pure (a : α) : run answer (pure a : Process Q A ε α) = pure a := rfl

@[simp] lemma run_raise (e : ε) : run answer (raise e : Process Q A ε α) = throw e := rfl

@[simp] lemma run_orRaise (x : Except ε α) :
    run answer (orRaise x : Process Q A ε α) = Library.orRaise x := by
  cases x <;> rfl

@[simp] lemma run_bind (p : Process Q A ε α) (f : α → Process Q A ε β) :
    run answer (p >>= f) = run answer p >>= fun a => run answer (f a) := by
  change run answer (p.bind f) = _
  funext s
  induction p generalizing s with
  | done a => rfl
  | raise e => rfl
  | ask q next ih =>
    simp only [Process.bind, run]
    change (Library.attempt (answer q) >>= fun r => run answer ((next r).bind f)).run s =
      ((Library.attempt (answer q) >>= fun r => run answer (next r)) >>=
        fun a => run answer (f a)).run s
    rw [EStateM.run_bind, EStateM.run_bind, EStateM.run_bind]
    cases (Library.attempt (answer q)).run s with
    | ok r t => exact ih r t
    | error e t => rfl

@[simp] lemma run_perform (q : Q) : run answer (perform q) = answer q := by
  funext s
  change (Library.attempt (answer q) >>= fun r => run answer _).run s = (answer q).run s
  rw [EStateM.run_bind, Library.run_attempt]
  cases (answer q).run s <;> rfl

@[simp] lemma run_attempt (p : Process Q A ε α) :
    run answer (attempt p) = Library.attempt (run answer p) := by
  funext s
  induction p generalizing s with
  | done a => rfl
  | raise e => rfl
  | ask q next ih =>
    change (Library.attempt (answer q) >>= fun r => run answer (attempt (next r))).run s =
      (Library.attempt (Library.attempt (answer q) >>= fun r => run answer (next r))).run s
    rw [EStateM.run_bind, Library.run_attempt, Library.run_attempt, EStateM.run_bind,
      Library.run_attempt]
    cases (answer q).run s with
    | ok a t =>
      exact (ih (.ok a) t).trans (Library.run_attempt _ _)
    | error e t =>
      exact (ih (.error e) t).trans (Library.run_attempt _ _)

end Run

/-- Every answer that the program gets on its run is fine. -/
def heard (answer : ∀ q, EStateM ε σ (A q)) (fine : ∀ q, Except ε (A q) → Bool) :
    Process Q A ε α → σ → Bool
  | done _, _ => true
  | raise _, _ => true
  | ask q next, s =>
    match (answer q).run s with
    | .ok a t => fine q (.ok a) && heard answer fine (next (.ok a)) t
    | .error e t => fine q (.error e) && heard answer fine (next (.error e)) t

section Heard

variable {answer : ∀ q, EStateM ε σ (A q)} {fine : ∀ q, Except ε (A q) → Bool}
  {p : Process Q A ε α} {f : α → Process Q A ε β} {s t : σ}

lemma run_ask_ok {q : Q} {next : Except ε (A q) → Process Q A ε α} {a : A q}
    (h : (answer q).run s = .ok a t) :
    (run answer (ask q next)).run s = (run answer (next (.ok a))).run t := by
  change (Library.attempt (answer q) >>= fun r => run answer (next r)).run s = _
  rw [EStateM.run_bind, Library.run_attempt, h]

lemma run_ask_error {q : Q} {next : Except ε (A q) → Process Q A ε α} {e : ε}
    (h : (answer q).run s = .error e t) :
    (run answer (ask q next)).run s = (run answer (next (.error e))).run t := by
  change (Library.attempt (answer q) >>= fun r => run answer (next r)).run s = _
  rw [EStateM.run_bind, Library.run_attempt, h]

lemma heard_left (h : heard answer fine (p >>= f) s = true) : heard answer fine p s = true := by
  change heard answer fine (p.bind f) s = true at h
  induction p generalizing s with
  | done a => rfl
  | raise e => rfl
  | ask q next ih =>
    rw [Process.bind, heard] at h
    rw [heard]
    cases hrun : (answer q).run s with
    | ok a t =>
      simp only [hrun, Bool.and_eq_true] at h ⊢
      exact ⟨h.1, ih _ h.2⟩
    | error e t =>
      simp only [hrun, Bool.and_eq_true] at h ⊢
      exact ⟨h.1, ih _ h.2⟩

lemma heard_right {a : α} (h : heard answer fine (p >>= f) s = true)
    (hrun : (run answer p).run s = .ok a t) : heard answer fine (f a) t = true := by
  change heard answer fine (p.bind f) s = true at h
  induction p generalizing s with
  | done b =>
    obtain ⟨rfl, rfl⟩ : b = a ∧ s = t := by simpa using hrun
    exact h
  | raise e => simp at hrun
  | ask q next ih =>
    rw [Process.bind, heard] at h
    cases hanswer : (answer q).run s with
    | ok b u =>
      simp only [hanswer, Bool.and_eq_true] at h
      exact ih _ (run_ask_ok hanswer ▸ hrun) h.2
    | error e u =>
      simp only [hanswer, Bool.and_eq_true] at h
      exact ih _ (run_ask_error hanswer ▸ hrun) h.2

lemma heard_attempt : heard answer fine (attempt p) s = heard answer fine p s := by
  induction p generalizing s with
  | done a => rfl
  | raise e => rfl
  | ask q next ih =>
    rw [attempt, heard, heard]
    cases (answer q).run s with
    | ok a t => simp only [ih]
    | error e t => simp only [ih]

lemma answered_of_heard {q : Q} (hfine : ∀ e, fine q (.error e) = false)
    (h : heard answer fine (perform q) s = true) :
    ∃ a t, (run answer (perform q)).run s = .ok a t := by
  rw [run_perform]
  rw [perform, heard] at h
  cases hrun : (answer q).run s with
  | ok a t => exact ⟨a, t, rfl⟩
  | error e t => simp [hrun, hfine] at h

end Heard

end Process

/-- Which questions a program may ask at which stage, and where the answers take it. -/
structure Protocol (S Q : Type) (A : Q → Type) (ε : Type) where
  allowed : S → Q → Prop
  next : S → (q : Q) → Except ε (A q) → S

namespace Protocol

variable {S Q : Type} {A : Q → Type} {ε σ ω α β : Type} (P : Protocol S Q A ε)

def Follows : S → Process Q A ε α → Prop
  | _, .done _ => True
  | _, .raise _ => True
  | s, .ask q next => P.allowed s q ∧ ∀ r, Follows (P.next s q r) (next r)

variable {P}

lemma follows_pure (s : S) (a : α) : P.Follows s (pure a : Process Q A ε α) := trivial

lemma follows_raise (s : S) (e : ε) : P.Follows s (.raise e : Process Q A ε α) := trivial

lemma follows_perform {s : S} {q : Q} {f : A q → Process Q A ε β} (hq : P.allowed s q)
    (h : ∀ a, P.Follows (P.next s q (.ok a)) (f a)) :
    P.Follows s (Process.perform q >>= f) := by
  refine ⟨hq, fun r => ?_⟩
  cases r with
  | ok a => exact h a
  | error e => trivial

lemma follows_attempt {s : S} {q : Q} {f : Except ε (A q) → Process Q A ε β} (hq : P.allowed s q)
    (h : ∀ r, P.Follows (P.next s q r) (f r)) :
    P.Follows s (Process.attempt (Process.perform q) >>= f) := by
  refine ⟨hq, fun r => ?_⟩
  cases r with
  | ok a => exact h (.ok a)
  | error e => exact h (.error e)

lemma Follows.ends {answer : ∀ q, EStateM ε σ (A q)} {I : S → σ → Prop}
    (hanswer : ∀ s q x, I s x → P.allowed s q →
      Ends (answer q) x (fun a y => I (P.next s q (.ok a)) y)
        (fun y => ∀ e, I (P.next s q (.error e)) y))
    {s : S} {p : Process Q A ε α} {x : σ} (h : P.Follows s p) (hx : I s x) :
    Ends (p.run answer) x (fun _ y => ∃ t, I t y) (fun y => ∃ t, I t y) := by
  induction p generalizing s x with
  | done a => exact ⟨s, hx⟩
  | raise e => exact ⟨s, hx⟩
  | ask q next ih =>
    have hkept := hanswer s q x hx h.1
    rw [Ends]
    cases hrun : (answer q).run x with
    | ok a y =>
      rw [Process.run_ask_ok hrun]
      exact ih (.ok a) (h.2 (.ok a)) (hkept.of_ok hrun)
    | error e y =>
      rw [Process.run_ask_error hrun]
      exact ih (.error e) (h.2 (.error e)) (hkept.of_error hrun e)

end Protocol

/-- Programs at their stages, and what they share. -/
structure Crowd (S Q : Type) (A : Q → Type) (ε α σ : Type) where
  shared : σ
  parties : List (S × Process Q A ε α)

namespace Crowd

variable {S Q : Type} {A : Q → Type} {ε σ ω α : Type} (P : Protocol S Q A ε)
  (answer : ω → ∀ q, EStateM ε σ (A q))

/-- The question of the `i`-th program is answered, and the program goes on to its next one. -/
def turn (crowd : Crowd S Q A ε α σ) (i : ℕ) (outside : ω) : Crowd S Q A ε α σ :=
  match crowd.parties[i]? with
  | some (s, .ask q next) =>
    match (answer outside q).run crowd.shared with
    | .ok a shared => ⟨shared, crowd.parties.set i (P.next s q (.ok a), next (.ok a))⟩
    | .error e shared => ⟨shared, crowd.parties.set i (P.next s q (.error e), next (.error e))⟩
  | _ => crowd

variable {P answer}

def Follows (P : Protocol S Q A ε) (crowd : Crowd S Q A ε α σ) : Prop :=
  ∀ party ∈ crowd.parties, P.Follows party.1 party.2

/-- A program whose turn it is has an allowed question answered from what is shared. -/
inductive Turn (P : Protocol S Q A ε) (answer : ω → ∀ q, EStateM ε σ (A q))
    (crowd : Crowd S Q A ε α σ) (i : ℕ) (outside : ω) : Crowd S Q A ε α σ → Prop
  | answered {s q next a shared} (hparty : crowd.parties[i]? = some (s, .ask q next))
      (hq : P.allowed s q) (hrun : (answer outside q).run crowd.shared = .ok a shared) :
      Turn P answer crowd i outside
        ⟨shared, crowd.parties.set i (P.next s q (.ok a), next (.ok a))⟩
  | refused {s q next e shared} (hparty : crowd.parties[i]? = some (s, .ask q next))
      (hq : P.allowed s q) (hrun : (answer outside q).run crowd.shared = .error e shared) :
      Turn P answer crowd i outside
        ⟨shared, crowd.parties.set i (P.next s q (.error e), next (.error e))⟩

lemma turn_cases {crowd : Crowd S Q A ε α σ} (h : crowd.Follows P) (i : ℕ) (outside : ω) :
    ((∀ s q next, crowd.parties[i]? ≠ some (s, .ask q next)) ∧
        crowd.turn P answer i outside = crowd) ∨
      Turn P answer crowd i outside (crowd.turn P answer i outside) := by
  rw [turn]
  split
  · rename_i s q next hparty
    have hfollows := h _ (List.mem_of_getElem? hparty)
    right
    split
    · rename_i a shared hrun
      exact .answered hparty hfollows.1 hrun
    · rename_i e shared hrun
      exact .refused hparty hfollows.1 hrun
  · rename_i hnone
    exact Or.inl ⟨hnone, rfl⟩

lemma Follows.set {crowd : Crowd S Q A ε α σ} (h : crowd.Follows P) {i : ℕ} {shared : σ}
    {party : S × Process Q A ε α} (hparty : P.Follows party.1 party.2) :
    Follows P ⟨shared, crowd.parties.set i party⟩ := by
  intro other hother
  rcases List.mem_or_eq_of_mem_set hother with hold | rfl
  · exact h other hold
  · exact hparty

lemma getElem?_set {crowd : Crowd S Q A ε α σ} {i j : ℕ} {party party' : S × Process Q A ε α}
    (h : crowd.parties[i]? = some party) :
    (crowd.parties.set i party')[j]? = if j = i then some party' else crowd.parties[j]? := by
  obtain ⟨hlength, -⟩ := List.getElem?_eq_some_iff.mp h
  rw [List.getElem?_set, if_pos hlength]
  exact if_congr eq_comm rfl rfl

lemma Turn.follows {crowd crowd' : Crowd S Q A ε α σ} {i : ℕ} {outside : ω}
    (hturn : Turn P answer crowd i outside crowd') (h : crowd.Follows P) : crowd'.Follows P := by
  cases hturn with
  | answered hparty _ _ | refused hparty _ _ =>
    exact h.set ((h _ (List.mem_of_getElem? hparty)).2 _)

end Crowd

end Library
