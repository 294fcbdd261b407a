import AmrWarehouse.Library.Text

/-! The lines of a text, and what stripping leaves of a line. -/

namespace Library

def isLineBreak (c : Char) : Bool :=
  let n := c.toNat
  (10 ≤ n && n ≤ 13) || (28 ≤ n && n ≤ 30) || n = 133 || n = 8232 || n = 8233

def splitLineChars : List Char → List (List Char)
  | [] => []
  | '\r' :: '\n' :: cs => [] :: splitLineChars cs
  | c :: cs =>
    if isLineBreak c then [] :: splitLineChars cs
    else
      match splitLineChars cs with
      | [] => [[c]]
      | line :: lines => (c :: line) :: lines

def splitLines (text : String) : List String := (splitLineChars text.toList).map String.ofList

def joinLines (lines : List String) : String :=
  String.ofList (lines.flatMap fun line => line.toList ++ ['\n'])

def Unbroken (line : String) : Prop := ∀ c ∈ line.toList, isLineBreak c = false

instance (line : String) : Decidable (Unbroken line) :=
  List.decidableBAll (fun c => isLineBreak c = false) line.toList

section SplitLines

lemma splitLineChars_newline (cs : List Char) :
    splitLineChars ('\n' :: cs) = [] :: splitLineChars cs := by
  rw [splitLineChars.eq_def]
  rfl

lemma splitLineChars_cons {c : Char} (hc : isLineBreak c = false) (cs : List Char) :
    splitLineChars (c :: cs) =
      match splitLineChars cs with
      | [] => [[c]]
      | line :: lines => (c :: line) :: lines := by
  have hne : c ≠ '\r' := by
    rintro rfl
    exact absurd hc (by decide)
  rw [splitLineChars.eq_def]
  split
  · simp_all
  · simp_all
  · rename_i heq
    obtain ⟨rfl, rfl⟩ := List.cons.inj heq
    rw [hc, if_neg (by simp)]

lemma splitLineChars_line {line : List Char} (h : ∀ c ∈ line, isLineBreak c = false)
    (cs : List Char) : splitLineChars (line ++ '\n' :: cs) = line :: splitLineChars cs := by
  induction line with
  | nil => exact splitLineChars_newline cs
  | cons c line ih =>
    obtain ⟨hc, hline⟩ := List.forall_mem_cons.mp h
    rw [List.cons_append, splitLineChars_cons hc, ih hline]

lemma splitLines_joinLines {lines : List String} (h : ∀ line ∈ lines, Unbroken line) :
    splitLines (joinLines lines) = lines := by
  rw [splitLines, joinLines, String.toList_ofList]
  induction lines with
  | nil => rfl
  | cons line lines ih =>
    obtain ⟨hline, hlines⟩ := List.forall_mem_cons.mp h
    rw [List.flatMap_cons, List.append_assoc, List.singleton_append, splitLineChars_line hline,
      List.map_cons, ih hlines, String.ofList_toList]

end SplitLines

section Strip

lemma dropWhile_append_of_all {p : Char → Bool} {cs : List Char} (h : ∀ c ∈ cs, p c = true)
    (ds : List Char) : (cs ++ ds).dropWhile p = ds.dropWhile p := by
  rw [List.dropWhile_append, List.dropWhile_eq_nil_iff.mpr h]
  rfl

lemma cut_at_first {p : Char → Bool} {cs ds : List Char} {c : Char} (h : ∀ d ∈ cs, p d = true)
    (hc : p c = false) :
    (cs ++ c :: ds).takeWhile p = cs ∧ (cs ++ c :: ds).dropWhile p = c :: ds := by
  constructor
  · rw [List.takeWhile_append_of_pos h, List.takeWhile_cons_of_neg (by simp [hc]), List.append_nil]
  · rw [dropWhile_append_of_all h, List.dropWhile_cons_of_neg (by simp [hc])]

def stripRight (cs : List Char) : List Char := (cs.reverse.dropWhile isSpace).reverse

lemma stripChars_eq (cs : List Char) : stripChars cs = stripRight (cs.dropWhile isSpace) := rfl

lemma stripRight_append {c : Char} (hc : isSpace c = false) (cs ds : List Char) :
    stripRight (cs ++ c :: ds) = cs ++ c :: stripRight ds := by
  have hstop : (c :: cs.reverse).dropWhile isSpace = c :: cs.reverse :=
    List.dropWhile_cons_of_neg (by simp [hc])
  rw [stripRight, stripRight, List.reverse_append, List.reverse_cons, List.append_assoc,
    List.singleton_append, List.dropWhile_append]
  split_ifs with hall
  · rw [List.isEmpty_iff] at hall
    rw [hall, hstop]
    simp
  · simp

lemma stripRight_stripRight (cs : List Char) : stripRight (stripRight cs) = stripRight cs := by
  rw [stripRight, stripRight, List.reverse_reverse, dropWhile_eq_self head?_dropWhile]

lemma stripChars_stripRight (cs : List Char) : stripChars (stripRight cs) = stripChars cs := by
  have hsplit := List.takeWhile_append_dropWhile (p := isSpace) (l := cs)
  have hspaces : ∀ c ∈ cs.takeWhile isSpace, isSpace c = true := fun _ => List.mem_takeWhile_imp
  cases hrest : cs.dropWhile isSpace with
  | nil =>
    have hall : ∀ c ∈ cs.reverse, isSpace c = true := fun c hc =>
      List.dropWhile_eq_nil_iff.mp hrest c (List.mem_reverse.mp hc)
    have hnone : stripRight cs = [] := by
      rw [stripRight, List.dropWhile_eq_nil_iff.mpr hall, List.reverse_nil]
    rw [hnone, stripChars_eq cs, hrest]
    rfl
  | cons c ds =>
    have hc : isSpace c = false := head?_dropWhile c (by rw [hrest]; rfl)
    rw [hrest] at hsplit
    have hstop : ∀ es, (c :: es).dropWhile isSpace = c :: es := fun es =>
      List.dropWhile_cons_of_neg (by simp [hc])
    rw [stripChars_eq, stripChars_eq, hrest, ← hsplit, stripRight_append hc,
      dropWhile_append_of_all hspaces, hstop]
    have hkeep : stripRight (c :: ds) = c :: stripRight ds := stripRight_append hc [] ds
    rw [← hkeep, stripRight_stripRight]

lemma stripChars_cons_space {c : Char} (hc : isSpace c = true) (cs : List Char) :
    stripChars (c :: cs) = stripChars cs := by
  rw [stripChars_eq, stripChars_eq, List.dropWhile_cons_of_pos hc]

end Strip

end Library
