import AmrWarehouse.Library.Runs

/-! A line of those who wait for something that one of them at a time may have. Whoever waits is
served when it has been given up once for everybody before him and once more. -/

namespace Library

inductive Turn (ρ : Type)
  | grant (a : ρ)
  | wait (a : ρ)
  | free
  | idle
  deriving DecidableEq

structure Line (ρ : Type) where
  taken : Bool
  waiting : List ρ
  deriving DecidableEq

variable {ρ : Type}

def frees (turns : List (Turn ρ)) : ℕ :=
  turns.countP fun turn => match turn with
    | .free => true
    | _ => false

@[simp] lemma frees_nil : frees ([] : List (Turn ρ)) = 0 := rfl

@[simp] lemma frees_free (turns : List (Turn ρ)) : frees (.free :: turns) = frees turns + 1 := by
  simp [frees]

@[simp] lemma frees_grant (a : ρ) (turns : List (Turn ρ)) :
    frees (.grant a :: turns) = frees turns := by
  simp [frees]

@[simp] lemma frees_wait (a : ρ) (turns : List (Turn ρ)) :
    frees (.wait a :: turns) = frees turns := by
  simp [frees]

@[simp] lemma frees_idle (turns : List (Turn ρ)) : frees (.idle :: turns) = frees turns := by
  simp [frees]

lemma frees_append (turns later : List (Turn ρ)) :
    frees (turns ++ later) = frees turns + frees later :=
  List.countP_append

namespace Line

def empty : Line ρ := ⟨false, []⟩

def apply (line : Line ρ) : Turn ρ → Line ρ
  | .grant _ => ⟨true, line.waiting.tail⟩
  | .wait a => { line with waiting := line.waiting ++ [a] }
  | .free => { line with taken := false }
  | .idle => line

/-- Only the first of the line is granted what nobody has. -/
def Fair (line : Line ρ) : Turn ρ → Prop
  | .grant a => line.taken = false ∧ ∀ b, line.waiting.head? = some b → b = a
  | .wait _ => line.taken = true
  | .free => line.taken = true
  | .idle => True

/-- One grant is due while nobody has it. -/
def due (line : Line ρ) : ℕ := if line.taken then 0 else 1

def Served (line : Line ρ) (k : ℕ) (a : ρ) (turns : List (Turn ρ)) : Prop :=
  ∃ before rest, turns = before ++ .grant a :: rest ∧ frees before + line.due = k + 1

variable {line : Line ρ} {turns : List (Turn ρ)} {k : ℕ} {a : ρ}

lemma served_or_waiting (h : Guarded apply Fair line turns) (ha : line.waiting[k]? = some a) :
    line.Served k a turns ∨ ∃ j, (runAll apply line turns).waiting[j]? = some a ∧
      j + (frees turns + line.due) = k + (runAll apply line turns).due := by
  induction turns generalizing line k with
  | nil => exact Or.inr ⟨k, ha, by simp⟩
  | cons turn turns ih =>
    obtain ⟨hfair, hrest⟩ := h
    rw [runAll_cons]
    cases turn with
    | grant b =>
      obtain ⟨hfree, hfirst⟩ := hfair
      have hdue : line.due = 1 := by simp [due, hfree]
      have hnext : (line.apply (.grant b)).due = 0 := rfl
      cases k with
      | zero =>
        have hhead : a = b := hfirst a (by rw [List.head?_eq_getElem?, ha])
        exact Or.inl ⟨[], turns, by rw [hhead]; rfl, by rw [hdue]; rfl⟩
      | succ k =>
        have htail : (line.apply (.grant b)).waiting[k]? = some a := by
          rw [apply, List.getElem?_tail]
          exact ha
        rcases ih hrest htail with ⟨before, rest, rfl, hcount⟩ | ⟨j, hj, hcount⟩
        · exact Or.inl ⟨.grant b :: before, rest, rfl, by rw [frees_grant]; omega⟩
        · exact Or.inr ⟨j, hj, by rw [frees_grant]; omega⟩
    | wait b =>
      have hlater : (line.apply (.wait b)).waiting[k]? = some a :=
        List.getElem?_append_left (List.getElem?_eq_some_iff.mp ha).1 ▸ ha
      have hnext : (line.apply (.wait b)).due = line.due := rfl
      rcases ih hrest hlater with ⟨before, rest, rfl, hcount⟩ | ⟨j, hj, hcount⟩
      · exact Or.inl ⟨.wait b :: before, rest, rfl, by rw [frees_wait]; omega⟩
      · exact Or.inr ⟨j, hj, by rw [frees_wait]; omega⟩
    | free =>
      have hdue : line.due = 0 := by simp [due, show line.taken = true from hfair]
      have hnext : (line.apply .free).due = 1 := rfl
      rcases ih hrest ha with ⟨before, rest, rfl, hcount⟩ | ⟨j, hj, hcount⟩
      · exact Or.inl ⟨.free :: before, rest, rfl, by rw [frees_free]; omega⟩
      · exact Or.inr ⟨j, hj, by rw [frees_free]; omega⟩
    | idle =>
      rcases ih hrest ha with ⟨before, rest, rfl, hcount⟩ | ⟨j, hj, hcount⟩
      · exact Or.inl ⟨.idle :: before, rest, rfl, by rw [frees_idle]; exact hcount⟩
      · exact Or.inr ⟨j, hj, by rw [frees_idle]; exact hcount⟩

/-- Who has `k` before him while somebody has it is served at the time `k + 1` that it is given up,
and until then he moves up. -/
lemma served_in_turn (h : Guarded apply Fair line turns) (htaken : line.taken = true)
    (hlast : (runAll apply line turns).waiting ≠ [] → (runAll apply line turns).taken = true)
    (ha : line.waiting[k]? = some a) :
    (frees turns ≤ k → (runAll apply line turns).waiting[k - frees turns]? = some a) ∧
      (k < frees turns → ∃ before rest, turns = before ++ .grant a :: rest ∧
        frees before = k + 1) := by
  have hdue : line.due = 0 := by simp [due, htaken]
  rcases served_or_waiting h ha with ⟨before, rest, rfl, hcount⟩ | ⟨j, hj, hcount⟩
  · have hle : frees before ≤ frees (before ++ .grant a :: rest) := by
      rw [frees_append]
      exact Nat.le_add_right _ _
    exact ⟨fun hfew => by omega, fun _ => ⟨before, rest, rfl, by omega⟩⟩
  · have hne : (runAll apply line turns).waiting ≠ [] := by
      intro hnil
      rw [hnil, List.getElem?_nil] at hj
      cases hj
    have hnone : (runAll apply line turns).due = 0 := by simp [due, hlast hne]
    obtain rfl : j = k - frees turns := by omega
    exact ⟨fun _ => hj, fun hmany => by omega⟩

end Line

end Library
