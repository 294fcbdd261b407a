import Mathlib.Algebra.Order.Floor.Ring
import Mathlib.Data.List.TakeWhile
import Mathlib.Data.Rat.Floor
import Mathlib.Tactic

/-! Texts: replacement, quoted strings, and decimals with a fixed number of places. -/

namespace Library

/-- The number counts the characters left of a match that has been replaced. -/
def replaceChars (old new : List Char) : ℕ → List Char → List Char
  | _, [] => []
  | 0, c :: cs =>
    if old.isPrefixOf (c :: cs) then new ++ replaceChars old new (old.length - 1) cs
    else c :: replaceChars old new 0 cs
  | skip + 1, _ :: cs => replaceChars old new skip cs

def replaceText (text old new : String) : String :=
  String.ofList (replaceChars old.toList new.toList 0 text.toList)

lemma replaceText_ne_empty {text old new : String} (htext : text ≠ "") (hnew : new ≠ "") :
    replaceText text old new ≠ "" := by
  rw [replaceText, ne_eq, String.ofList_eq_empty_iff]
  cases hcs : text.toList with
  | nil => exact absurd (String.toList_eq_nil_iff.mp hcs) htext
  | cons c cs =>
    rw [replaceChars]
    split_ifs
    · simp [hnew]
    · simp

def escapeChar (quote c : Char) : List Char :=
  if c = quote then ['\\', c]
  else if c = '\\' then ['\\', '\\']
  else if c = '\n' then ['\\', 'n']
  else if c = '\r' then ['\\', 'r']
  else if c = '\t' then ['\\', 't']
  else if c.toNat < 32 ∨ c.toNat = 127 then
    ['\\', 'x', (c.toNat / 16).digitChar, (c.toNat % 16).digitChar]
  else [c]

def quoted (s : String) : String :=
  let quote := if '\'' ∈ s.toList ∧ '\"' ∉ s.toList then '\"' else '\''
  String.ofList (quote :: s.toList.flatMap (escapeChar quote) ++ [quote])

def isSpace (c : Char) : Bool :=
  let n := c.toNat
  (9 ≤ n && n ≤ 13) || (28 ≤ n && n ≤ 32) || n = 133 || n = 160 || n = 5760 ||
    (8192 ≤ n && n ≤ 8202) || n = 8232 || n = 8233 || n = 8239 || n = 8287 || n = 12288

def stripChars (cs : List Char) : List Char :=
  ((cs.dropWhile isSpace).reverse.dropWhile isSpace).reverse

def strip (text : String) : String := String.ofList (stripChars text.toList)

def Filled (text : String) : Prop := strip text ≠ ""

instance (text : String) : Decidable (Filled text) := inferInstanceAs (Decidable (_ ≠ _))

def Trimmed (text : String) : Prop := strip text = text

instance (text : String) : Decidable (Trimmed text) := inferInstanceAs (Decidable (_ = _))

lemma dropWhile_eq_self {p : Char → Bool} {cs : List Char} (h : ∀ c ∈ cs.head?, p c = false) :
    cs.dropWhile p = cs := by
  cases cs with
  | nil => rfl
  | cons c cs => rw [List.dropWhile_cons_of_neg (by simp [h c rfl])]

lemma head?_dropWhile {p : Char → Bool} {cs : List Char} :
    ∀ c ∈ (cs.dropWhile p).head?, p c = false := by
  induction cs with
  | nil => simp
  | cons c cs ih =>
    rw [List.dropWhile_cons]
    split_ifs with h
    · exact ih
    · simpa using h

lemma trimmed_of_ends {text : String} (hfirst : ∀ c ∈ text.toList.head?, isSpace c = false)
    (hlast : ∀ c ∈ text.toList.getLast?, isSpace c = false) : Trimmed text := by
  rw [Trimmed, strip, stripChars, dropWhile_eq_self hfirst, dropWhile_eq_self,
    List.reverse_reverse, String.ofList_toList]
  rw [List.head?_reverse]
  exact hlast

lemma strip_first {text : String} : ∀ c ∈ (strip text).toList.head?, isSpace c = false := by
  intro c hc
  rw [strip, String.toList_ofList, stripChars] at hc
  have hsuffix := List.dropWhile_suffix isSpace (l := (text.toList.dropWhile isSpace).reverse)
  obtain ⟨rest, hrest⟩ := List.reverse_prefix.mpr hsuffix
  rw [List.reverse_reverse] at hrest
  refine @head?_dropWhile isSpace text.toList c ?_
  rw [← hrest, List.head?_append, Option.mem_def.mp hc]
  rfl

lemma strip_last {text : String} : ∀ c ∈ (strip text).toList.getLast?, isSpace c = false := by
  rw [strip, String.toList_ofList, stripChars, List.getLast?_reverse]
  exact head?_dropWhile

lemma trimmed_strip (text : String) : Trimmed (strip text) := trimmed_of_ends strip_first strip_last

lemma trimmed_append {text more : String} (hne : text ≠ "")
    (hfirst : ∀ c ∈ text.toList.head?, isSpace c = false) (hmore : Trimmed more)
    (hmore_ne : more ≠ "") : Trimmed (text ++ more) := by
  apply trimmed_of_ends
  · intro c hc
    rw [String.toList_append, List.head?_append_of_ne_nil _ (by simpa using hne)] at hc
    exact hfirst c hc
  · intro c hc
    rw [String.toList_append, List.getLast?_append_of_ne_nil _ (by simpa using hmore_ne)] at hc
    rw [Trimmed] at hmore
    rw [← hmore] at hc
    exact strip_last c hc

lemma filled_of_trimmed {text : String} (h : Trimmed text) (hne : text ≠ "") : Filled text := by
  rw [Filled, h]
  exact hne

lemma filled_iff {text : String} : Filled text ↔ ∃ c ∈ text.toList, isSpace c = false := by
  rw [Filled, strip, ne_eq, String.ofList_eq_empty_iff, stripChars, List.reverse_eq_nil_iff,
    List.dropWhile_eq_nil_iff]
  constructor
  · intro h
    by_contra hnone
    push Not at hnone
    have hspaces : ∀ c ∈ text.toList, isSpace c = true := by simpa using hnone
    rw [List.dropWhile_eq_nil_iff.mpr hspaces] at h
    simp at h
  · rintro ⟨c, hc, hspace⟩ hall
    have hspaces : ∀ d ∈ text.toList.dropWhile isSpace, isSpace d = true :=
      fun d hd => hall d (List.mem_reverse.mpr hd)
    cases hrest : text.toList.dropWhile isSpace with
    | nil => simp [List.dropWhile_eq_nil_iff.mp hrest c hc] at hspace
    | cons d rest =>
      have hfirst := @head?_dropWhile isSpace text.toList d (by simp [hrest])
      rw [hspaces d (by simp [hrest])] at hfirst
      exact absurd hfirst (by simp)

def roundHalfEven (q : ℚ) : ℤ :=
  let low := ⌊q⌋
  if q - low < 1 / 2 then low
  else if 1 / 2 < q - low then low + 1
  else if low % 2 = 0 then low else low + 1

def decimalPlaces : ℕ → ℕ → List Char
  | 0, _ => []
  | places + 1, n => decimalPlaces places (n / 10) ++ [(n % 10).digitChar]

def fixedPoint (places : ℕ) (q : ℚ) : String :=
  let scaled := (roundHalfEven (|q| * 10 ^ places)).toNat
  let sign := if q < 0 then "-" else ""
  sign ++ toString (scaled / 10 ^ places) ++ "." ++ String.ofList (decimalPlaces places scaled)

example : fixedPoint 3 (-1 / 2) = "-0.500" := by decide +kernel

end Library
