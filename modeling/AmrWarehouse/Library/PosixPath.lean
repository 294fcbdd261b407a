import Mathlib.Tactic

/-! Absolute POSIX paths: their texts, how they are joined, and how `.` and `..` are resolved. -/

namespace Library

def Component (name : String) : Prop := name ≠ "" ∧ '/' ∉ name.toList

instance (name : String) : Decidable (Component name) := inferInstanceAs (Decidable (_ ∧ _))

def components (text : String) : List String :=
  ((text.toList.splitOn '/').filter fun name => name ≠ []).map String.ofList

lemma not_mem_of_mem_splitOn {cs name : List Char} (h : name ∈ cs.splitOn '/') : '/' ∉ name := by
  induction cs generalizing name with
  | nil =>
    rw [List.splitOn_nil, List.mem_singleton] at h
    simp [h]
  | cons c cs ih =>
    rw [List.splitOn_cons_eq_if_modifyHead] at h
    split_ifs at h with hc
    · rcases List.mem_cons.mp h with rfl | h
      · simp
      · exact ih h
    · cases hsplit : cs.splitOn '/' with
      | nil => simp [hsplit] at h
      | cons first rest =>
        rw [hsplit] at ih h
        rw [List.modifyHead_cons, List.mem_cons] at h
        rcases h with rfl | h
        · rw [List.mem_cons, not_or]
          exact ⟨fun heq => hc (by simp [← heq]), ih List.mem_cons_self⟩
        · exact ih (List.mem_cons_of_mem first h)

lemma component_of_mem_components {text name : String} (h : name ∈ components text) :
    Component name := by
  obtain ⟨cs, hcs, rfl⟩ := List.mem_map.mp h
  obtain ⟨hsplit, hne⟩ := List.mem_filter.mp hcs
  refine ⟨by simpa using hne, ?_⟩
  rw [String.toList_ofList]
  exact not_mem_of_mem_splitOn hsplit

lemma components_of_component {name : String} (h : Component name) : components name = [name] := by
  rw [components, List.splitOn_eq_singleton h.2]
  simp [h.1]

@[ext] structure PosixPath where
  parts : List String
  components : ∀ name ∈ parts, Component name
  deriving DecidableEq

namespace PosixPath

def top : PosixPath := ⟨[], by simp⟩

def text (path : PosixPath) : String :=
  String.ofList ('/' :: ['/'].intercalate (path.parts.map String.toList))

lemma components_text (path : PosixPath) : Library.components path.text = path.parts := by
  have hhead : ('/' :: ['/'].intercalate (path.parts.map String.toList)).splitOn '/' =
      [] :: (['/'].intercalate (path.parts.map String.toList)).splitOn '/' := by
    simp [List.splitOn_cons_eq_if_modifyHead]
  rw [Library.components, text, String.toList_ofList, hhead]
  by_cases hparts : path.parts = []
  · simp [hparts]
  · have hslash : ∀ cs ∈ path.parts.map String.toList, '/' ∉ cs := by
      intro cs hcs
      obtain ⟨name, hname, rfl⟩ := List.mem_map.mp hcs
      exact (path.components name hname).2
    have hfilled : ∀ cs ∈ path.parts.map String.toList, decide (cs ≠ []) = true := by
      intro cs hcs
      obtain ⟨name, hname, rfl⟩ := List.mem_map.mp hcs
      simpa using (path.components name hname).1
    rw [List.splitOn_intercalate '/' hslash (by simpa using hparts),
      List.filter_cons_of_neg (by simp), List.filter_eq_self.mpr hfilled, List.map_map]
    simp

lemma intercalate_prefix (sep : List Char) (css rest : List (List Char)) :
    sep.intercalate css <+: sep.intercalate (css ++ rest) := by
  induction css with
  | nil => exact List.nil_prefix
  | cons cs css ih =>
    cases css with
    | nil =>
      cases rest with
      | nil => exact List.prefix_rfl
      | cons other rest =>
        rw [List.singleton_append, List.intercalate_singleton, List.intercalate_cons_cons,
          List.append_assoc]
        exact List.prefix_append _ _
    | cons other css =>
      rw [List.cons_append] at ih
      rw [List.cons_append, List.cons_append, List.intercalate_cons_cons,
        List.intercalate_cons_cons]
      exact (List.prefix_append_right_inj _).mpr ih

lemma utf8ByteSize_text_le {path path' : PosixPath} {rest : List String}
    (h : path'.parts = path.parts ++ rest) : path.text.utf8ByteSize ≤ path'.text.utf8ByteSize := by
  obtain ⟨cs, hcs⟩ := intercalate_prefix ['/'] (path.parts.map String.toList)
    (rest.map String.toList)
  rw [text, text, h, List.map_append, ← hcs, ← List.cons_append, String.ofList_append,
    String.utf8ByteSize_append]
  exact Nat.le_add_right _ _

/-- In bytes, the longest name and the length that a path may not reach. -/
def nameMax : ℕ := 255
def pathMax : ℕ := 4096

def Fits (path : PosixPath) : Prop :=
  path.text.utf8ByteSize < pathMax ∧ ∀ name ∈ path.parts, name.utf8ByteSize ≤ nameMax

instance (path : PosixPath) : Decidable path.Fits := inferInstanceAs (Decidable (_ ∧ _))

/-- `path / text`: a text that starts with a slash replaces the path, and dots are dropped. -/
def join (path : PosixPath) (text : String) : PosixPath where
  parts := (if text.toList.head? = some '/' then [] else path.parts) ++
    (Library.components text).filter fun name => name ≠ "."
  components name h := by
    rcases List.mem_append.mp h with h | h
    · split_ifs at h with hslash
      · simp at h
      · exact path.components name h
    · exact component_of_mem_components (List.mem_filter.mp h).1

lemma parts_join {path : PosixPath} {name : String} (h : Component name) :
    (path.join name).parts = path.parts ++ if name = "." then [] else [name] := by
  have hslash : name.toList.head? ≠ some '/' := by
    intro hhead
    exact h.2 (List.mem_of_head? hhead)
  simp only [join, if_neg hslash, components_of_component h]
  split_ifs with hdot
  · simp [hdot]
  · simp [hdot]

lemma Fits.of_join {path : PosixPath} {name : String} (h : (path.join name).Fits)
    (hname : Component name) : path.Fits := by
  have hparts : (path.join name).parts = path.parts ++ if name = "." then [] else [name] :=
    parts_join hname
  refine ⟨(utf8ByteSize_text_le hparts).trans_lt h.1, fun other hother => h.2 other ?_⟩
  rw [hparts]
  exact List.mem_append_left _ hother

/-- What `urllib.parse.quote_from_bytes` leaves as it is. -/
def uriSafe (byte : UInt8) : Bool :=
  let c := Char.ofNat byte.toNat
  byte.toNat < 128 && (c.isAlphanum || c ∈ "_.-~/".toList)

def quoteByte (byte : UInt8) : List Char :=
  if uriSafe byte then [Char.ofNat byte.toNat]
  else ['%', (byte.toNat / 16).digitChar.toUpper, (byte.toNat % 16).digitChar.toUpper]

def asUri (path : PosixPath) : String :=
  "file://" ++ String.ofList (path.text.toUTF8.data.toList.flatMap quoteByte)

end PosixPath

/-- One component further: `.` stays, and `..` goes to the parent, which at the top is itself. -/
def enter (here : List String) (name : String) : List String :=
  if name = "." then here else if name = ".." then here.dropLast else here ++ [name]

def resolve (parts : List String) : List String := parts.foldl enter []

def Plain (name : String) : Prop := name ≠ "." ∧ name ≠ ".."

instance (name : String) : Decidable (Plain name) := inferInstanceAs (Decidable (_ ∧ _))

lemma enter_of_plain {here : List String} {name : String} (h : Plain name) :
    enter here name = here ++ [name] := by
  rw [enter, if_neg h.1, if_neg h.2]

lemma resolve_append (parts : List String) (name : String) :
    resolve (parts ++ [name]) = enter (resolve parts) name := by
  rw [resolve, List.foldl_append]
  rfl

lemma resolve_of_plain {parts : List String} (h : ∀ name ∈ parts, Plain name) :
    resolve parts = parts := by
  induction parts using List.reverseRecOn with
  | nil => rfl
  | append_singleton parts name ih =>
    rw [resolve_append, ih fun other hmem => h other (List.mem_append_left _ hmem),
      enter_of_plain (h name (by simp))]

lemma mem_resolve {parts : List String} {name : String} (h : name ∈ resolve parts) :
    name ∈ parts ∧ Plain name := by
  induction parts using List.reverseRecOn with
  | nil => simp [resolve] at h
  | append_singleton parts last ih =>
    rw [resolve_append, enter] at h
    rw [List.mem_append, List.mem_singleton]
    split_ifs at h with hdot hdots
    · exact ⟨Or.inl (ih h).1, (ih h).2⟩
    · have hmem := List.mem_of_mem_dropLast h
      exact ⟨Or.inl (ih hmem).1, (ih hmem).2⟩
    · rcases List.mem_append.mp h with h | h
      · exact ⟨Or.inl (ih h).1, (ih h).2⟩
      · obtain rfl := List.mem_singleton.mp h
        exact ⟨Or.inr rfl, hdot, hdots⟩

namespace PosixPath

def resolved (path : PosixPath) : PosixPath where
  parts := resolve path.parts
  components name h := path.components name (mem_resolve h).1

def withParents (path : PosixPath) : List PosixPath :=
  path.parts.inits.attach.map fun parts =>
    ⟨parts.1, fun name h =>
      path.components name (((List.mem_inits _ _).mp parts.2).subset h)⟩

end PosixPath

def Beneath (directory place : List String) : Prop := ∃ rest, rest ≠ [] ∧ place = directory ++ rest

end Library
