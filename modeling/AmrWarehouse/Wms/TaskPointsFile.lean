import AmrWarehouse.Library.Lines
import AmrWarehouse.Wms.TaskTable

/-! The task points file: which texts are read, what they are read as, and that points which are
written down are read back. -/

namespace Wms

open Library

/-- `literalEval` is `ast.literal_eval`: none where it raises a ValueError or a SyntaxError, and an
error where it raises anything else. -/
def parseScalar (literalEval : String → Except WmsError (Option Scalar)) (value : String) :
    Except WmsError Scalar :=
  let value := strip value
  if value = "TBD" then .ok (.text value)
  else (fun scalar => scalar.getD (.text value)) <$> literalEval value

structure PointReader where
  points : TaskPoints
  currentPoint : Option String

variable (literalEval : String → Except WmsError (Option Scalar))

section Reading

def invalidTopLevelLine (rawLine : String) : WmsError :=
  ⟨.valueError, s!"Invalid top-level YAML line: {rawLine}"⟩

def invalidNestedLine (rawLine : String) : WmsError :=
  ⟨.valueError, s!"Invalid nested YAML line: {rawLine}"⟩

def readPointLine (reader : PointReader) (rawLine : String) : Except WmsError PointReader :=
  let stripped := (strip rawLine).toList
  if stripped = [] ∨ stripped.head? = some '#' then .ok reader
  else if rawLine.toList.head? ≠ some ' ' then
    if stripped.getLast? ≠ some ':' then .error (invalidTopLevelLine rawLine)
    else
      let currentPoint := String.ofList stripped.dropLast
      .ok ⟨reader.points.set currentPoint .empty, some currentPoint⟩
  else
    match reader.currentPoint with
    | none => .error (invalidNestedLine rawLine)
    | some point =>
      if ':' ∉ stripped then .error (invalidNestedLine rawLine)
      else
        let key := strip (String.ofList (stripped.takeWhile (· ≠ ':')))
        let value := String.ofList (stripped.dropWhile (· ≠ ':')).tail
        let fields := (reader.points.get? point).getD .empty
        match parseScalar literalEval value with
        | .error e => .error e
        | .ok scalar => .ok ⟨reader.points.set point (fields.set key scalar), some point⟩

def readPointLines (lines : List String) : Except WmsError PointReader :=
  lines.foldlM (readPointLine literalEval) ⟨.empty, none⟩

def loadTaskPoints (path : String) (file : Option String) : Except WmsError TaskPoints :=
  match file with
  | none => .error ⟨.fileNotFound, s!"Task points file not found: {path}"⟩
  | some text => PointReader.points <$> readPointLines literalEval (splitLines text)

end Reading

structure PointSection (ν : Type) where
  name : String
  entries : List (String × ν)

section Documents

def Skipped (rawLine : String) : Prop :=
  strip rawLine = "" ∨ (strip rawLine).toList.head? = some '#'

instance (rawLine : String) : Decidable (Skipped rawLine) := inferInstanceAs (Decidable (_ ∨ _))

def Heading (rawLine name : String) : Prop :=
  ¬ Skipped rawLine ∧ rawLine.toList.head? ≠ some ' ' ∧
    (strip rawLine).toList = name.toList ++ [':']

def Entry (rawLine key value : String) : Prop :=
  ¬ Skipped rawLine ∧ rawLine.toList.head? = some ' ' ∧
    ∃ before, (strip rawLine).toList = before ++ ':' :: value.toList ∧ ':' ∉ before ∧
      key = strip (String.ofList before)

/-- The lines are headings with the entries below them, between lines that are skipped. -/
inductive Document : List String → List (PointSection Scalar) → Prop
  | nil : Document [] []
  | skip {lines sections line} (h : Document lines sections) (hline : Skipped line) :
      Document (lines ++ [line]) sections
  | heading {lines sections line name} (h : Document lines sections) (hline : Heading line name) :
      Document (lines ++ [line]) (sections ++ [⟨name, []⟩])
  | entry {lines sections line name entries key value scalar}
      (h : Document lines (sections ++ [⟨name, entries⟩])) (hline : Entry line key value)
      (hvalue : parseScalar literalEval value = .ok scalar) :
      Document (lines ++ [line]) (sections ++ [⟨name, entries ++ [(key, scalar)]⟩])

/-- A line that cannot stand below these sections, and what is said about it. -/
def Invalid (sections : List (PointSection Scalar)) (rawLine : String) (e : WmsError) : Prop :=
  ¬ Skipped rawLine ∧
    (rawLine.toList.head? ≠ some ' ' ∧ (strip rawLine).toList.getLast? ≠ some ':' ∧
        e = invalidTopLevelLine rawLine ∨
      rawLine.toList.head? = some ' ' ∧ (sections = [] ∨ ':' ∉ (strip rawLine).toList) ∧
        e = invalidNestedLine rawLine ∨
      sections ≠ [] ∧ ∃ key value, Entry rawLine key value ∧
        parseScalar literalEval value = .error e)

def fieldsOf (entries : List (String × Scalar)) : Dict String Scalar :=
  entries.foldl (fun fields entry => fields.set entry.1 entry.2) .empty

def pointsOf (sections : List (PointSection Scalar)) : TaskPoints :=
  sections.foldl (fun points point => points.set point.name (fieldsOf point.entries)) .empty

end Documents

section Reads

variable {literalEval} {sections : List (PointSection Scalar)} {line : String}
  {reader : PointReader}

lemma pointsOf_append (sections : List (PointSection Scalar)) (point : PointSection Scalar) :
    pointsOf (sections ++ [point]) =
      (pointsOf sections).set point.name (fieldsOf point.entries) := by
  rw [pointsOf, List.foldl_append]
  rfl

lemma fieldsOf_append (entries : List (String × Scalar)) (key : String) (value : Scalar) :
    fieldsOf (entries ++ [(key, value)]) = (fieldsOf entries).set key value := by
  rw [fieldsOf, List.foldl_append]
  rfl

def readerOf (sections : List (PointSection Scalar)) : PointReader :=
  ⟨pointsOf sections, sections.getLast?.map PointSection.name⟩

lemma read_skipped (h : Skipped line) (reader : PointReader) :
    readPointLine literalEval reader line = .ok reader := by
  rw [readPointLine]
  have hskip : (strip line).toList = [] ∨ (strip line).toList.head? = some '#' :=
    h.imp (fun hempty => by rw [hempty]; rfl) id
  exact if_pos hskip

lemma not_skipped (h : ¬ Skipped line) :
    ¬ ((strip line).toList = [] ∨ (strip line).toList.head? = some '#') := by
  rw [Skipped] at h
  rwa [String.toList_eq_nil_iff]

lemma read_heading {name : String} (h : Heading line name) :
    readPointLine literalEval (readerOf sections) line =
      .ok (readerOf (sections ++ [⟨name, []⟩])) := by
  obtain ⟨hskip, hspace, hname⟩ := h
  rw [readPointLine]
  simp only [if_neg (not_skipped hskip), if_pos hspace]
  rw [hname, if_neg (by simp), List.dropLast_concat, String.ofList_toList, readerOf, readerOf,
    pointsOf_append, List.getLast?_concat]
  rfl

lemma read_entry {name key value : String} {entries : List (String × Scalar)}
    (h : Entry line key value) :
    readPointLine literalEval (readerOf (sections ++ [⟨name, entries⟩])) line =
      (fun scalar => readerOf (sections ++ [⟨name, entries ++ [(key, scalar)]⟩])) <$>
        parseScalar literalEval value := by
  obtain ⟨hskip, hspace, before, hsplit, hbefore, rfl⟩ := h
  rw [readPointLine]
  simp only [if_neg (not_skipped hskip), if_neg (not_not.mpr hspace)]
  have hpoint : (readerOf (sections ++ [⟨name, entries⟩])).currentPoint = some name := by
    simp [readerOf]
  have hkeep : ∀ c ∈ before, decide (c ≠ ':') = true := by
    intro c hc
    rw [decide_eq_true_eq]
    rintro rfl
    exact hbefore hc
  have hstop : decide (':' ≠ ':') = false := by decide
  obtain ⟨htake, hdrop⟩ :=
    @cut_at_first (fun c => decide (c ≠ ':')) before value.toList ':' hkeep hstop
  have hmem : ':' ∈ before ++ ':' :: value.toList := by simp
  rw [hpoint]
  dsimp only
  rw [hsplit, if_neg (not_not.mpr hmem), htake, hdrop, List.tail_cons, String.ofList_toList]
  simp only [readerOf, pointsOf_append, Dict.get?_set_self, Option.getD_some, Dict.set_set,
    fieldsOf_append, List.getLast?_concat, Option.map_some]
  cases parseScalar literalEval value <;> rfl

lemma read_invalid {e : WmsError} (h : Invalid literalEval sections line e) :
    readPointLine literalEval (readerOf sections) line = .error e := by
  obtain ⟨hskip, ⟨hspace, hcolon, rfl⟩ | ⟨hspace, hnone, rfl⟩ |
    ⟨hne, key, value, hentry, hraised⟩⟩ := h
  · rw [readPointLine]
    simp only [if_neg (not_skipped hskip), if_pos hspace, if_pos hcolon]
  · rw [readPointLine]
    simp only [if_neg (not_skipped hskip), if_neg (not_not.mpr hspace)]
    rcases hnone with rfl | hcolon
    · rfl
    · cases (readerOf sections).currentPoint with
      | none => rfl
      | some point => exact if_pos hcolon
  · obtain ⟨earlier, ⟨name, entries⟩, rfl⟩ := List.eq_nil_or_concat sections |>.resolve_left hne
    rw [List.concat_eq_append, read_entry hentry, hraised]
    rfl

lemma line_cases (sections : List (PointSection Scalar)) (line : String) :
    Skipped line ∨ (∃ name, Heading line name) ∨
      (sections ≠ [] ∧ ∃ key value scalar, Entry line key value ∧
        parseScalar literalEval value = .ok scalar) ∨
      ∃ e, Invalid literalEval sections line e := by
  by_cases hskip : Skipped line
  · exact Or.inl hskip
  right
  by_cases hspace : line.toList.head? = some ' '
  · right
    by_cases hnone : sections = [] ∨ ':' ∉ (strip line).toList
    · exact Or.inr ⟨_, hskip, Or.inr (Or.inl ⟨hspace, hnone, rfl⟩)⟩
    · push Not at hnone
      obtain ⟨before, value, hsplit, hbefore⟩ := List.eq_append_cons_of_mem hnone.2
      have hentry : Entry line (strip (String.ofList before)) (String.ofList value) :=
        ⟨hskip, hspace, before, by rw [hsplit, String.toList_ofList], hbefore, rfl⟩
      cases hvalue : parseScalar literalEval (String.ofList value) with
      | ok scalar => exact Or.inl ⟨hnone.1, _, _, scalar, hentry, hvalue⟩
      | error e => exact Or.inr ⟨e, hskip, Or.inr (Or.inr ⟨hnone.1, _, _, hentry, hvalue⟩)⟩
  · by_cases hcolon : (strip line).toList.getLast? = some ':'
    · refine Or.inl ⟨String.ofList (strip line).toList.dropLast, hskip, hspace, ?_⟩
      rw [String.toList_ofList]
      obtain ⟨before, hbefore⟩ := List.getLast?_eq_some_iff.mp hcolon
      rw [hbefore, List.dropLast_concat]
    · exact Or.inr (Or.inr ⟨_, hskip, Or.inl ⟨hspace, hcolon, rfl⟩⟩)

lemma read_append {lines : List String} (h : readPointLines literalEval lines = .ok reader)
    (later : List String) :
    readPointLines literalEval (lines ++ later) =
      later.foldlM (readPointLine literalEval) reader := by
  rw [readPointLines] at h ⊢
  rw [List.foldlM_append, h]
  rfl

lemma read_snoc {lines : List String} (h : readPointLines literalEval lines = .ok reader)
    (line : String) :
    readPointLines literalEval (lines ++ [line]) = readPointLine literalEval reader line := by
  rw [read_append h]
  exact bind_pure _

lemma Document.reads {lines : List String} (h : Document literalEval lines sections) :
    readPointLines literalEval lines = .ok (readerOf sections) := by
  induction h with
  | nil => rfl
  | skip _ hline ih =>
    rw [read_snoc ih]
    exact read_skipped hline _
  | heading _ hline ih =>
    rw [read_snoc ih]
    exact read_heading hline
  | entry _ hline hvalue ih =>
    rw [read_snoc ih, read_entry hline, hvalue]
    rfl

def Unreadable (literalEval : String → Except WmsError (Option Scalar)) (lines : List String)
    (e : WmsError) : Prop :=
  ∃ before line after sections, lines = before ++ line :: after ∧
    Document literalEval before sections ∧ Invalid literalEval sections line e

lemma Unreadable.reads {lines : List String} {e : WmsError}
    (h : Unreadable literalEval lines e) :
    readPointLines literalEval lines = .error e := by
  obtain ⟨before, line, after, sections, rfl, hbefore, hline⟩ := h
  rw [read_append hbefore.reads]
  exact congrArg (· >>= fun reader => after.foldlM _ reader) (read_invalid hline)

lemma document_or_unreadable (lines : List String) :
    (∃ sections, Document literalEval lines sections) ∨ ∃ e, Unreadable literalEval lines e := by
  induction lines using List.reverseRecOn with
  | nil => exact Or.inl ⟨[], .nil⟩
  | append_singleton lines line ih =>
    rcases ih with ⟨sections, h⟩ | ⟨e, before, bad, after, sections, rfl, hbefore, hbad⟩
    · rcases line_cases sections line with hskip | ⟨name, hheading⟩ |
        ⟨hne, key, value, scalar, hentry, hvalue⟩ | ⟨e, hinvalid⟩
      · exact Or.inl ⟨_, h.skip hskip⟩
      · exact Or.inl ⟨_, h.heading hheading⟩
      · obtain ⟨earlier, ⟨name, entries⟩, rfl⟩ := List.eq_nil_or_concat sections |>.resolve_left hne
        rw [List.concat_eq_append] at h
        exact Or.inl ⟨_, h.entry hentry hvalue⟩
      · exact Or.inr ⟨e, lines, line, [], sections, rfl, h, hinvalid⟩
    · exact Or.inr ⟨e, before, bad, after ++ [line], sections, by simp, hbefore, hbad⟩

lemma get?_foldl_set {α ν : Type} (name : α → String) (value : α → ν) (items : List α)
    (d : Dict String ν) (key : String) :
    (items.foldl (fun d item => d.set (name item) (value item)) d).get? key =
      (((items.filter fun item => name item = key).getLast?.map value).or (d.get? key)) := by
  induction items generalizing d with
  | nil => rfl
  | cons item items ih =>
    rw [List.foldl_cons, ih, Dict.get?_set, List.filter_cons]
    by_cases hkey : name item = key
    · rw [if_pos hkey.symm, if_pos (by simpa using hkey), List.getLast?_cons]
      cases (items.filter fun item => name item = key).getLast? <;> rfl
    · rw [if_neg (Ne.symm hkey), if_neg (by simpa using hkey)]

lemma get?_pointsOf (sections : List (PointSection Scalar)) (name : String) :
    (pointsOf sections).get? name =
      (sections.filter fun point => point.name = name).getLast?.map fun point =>
        fieldsOf point.entries := by
  rw [pointsOf, get?_foldl_set, Dict.get?_empty, Option.or_none]

lemma get?_fieldsOf (entries : List (String × Scalar)) (key : String) :
    (fieldsOf entries).get? key =
      (entries.filter fun entry => entry.1 = key).getLast?.map Prod.snd := by
  rw [fieldsOf, get?_foldl_set, Dict.get?_empty, Option.or_none]

end Reads

/-- A text is read exactly when its lines make up headings with entries below them; otherwise the
error names the first line that cannot stand where it does. A point has the fields below the last
heading with its name, each with the last value given there. -/
theorem loadTaskPoints_exact (literalEval : String → Except WmsError (Option Scalar))
    (path text : String) :
    (∀ points, loadTaskPoints literalEval path (some text) = .ok points ↔
      ∃ sections, Document literalEval (splitLines text) sections ∧
        points = pointsOf sections) ∧
    (∀ e, loadTaskPoints literalEval path (some text) = .error e ↔
      Unreadable literalEval (splitLines text) e) ∧
    (∀ sections name key, ((pointsOf sections).get? name).bind (·.get? key) =
      (sections.filter fun point => point.name = name).getLast?.bind fun point =>
        (point.entries.filter fun entry => entry.1 = key).getLast?.map Prod.snd) := by
  have hcases := @document_or_unreadable literalEval (splitLines text)
  have hload : ∀ r, readPointLines literalEval (splitLines text) = r →
      loadTaskPoints literalEval path (some text) = PointReader.points <$> r :=
    fun r h => by rw [loadTaskPoints, h]
  refine ⟨fun points => ⟨fun h => ?_, ?_⟩, fun e => ⟨fun h => ?_, ?_⟩, fun sections name key => ?_⟩
  · rcases hcases with ⟨sections, hdocument⟩ | ⟨e, hunreadable⟩
    · rw [hload _ hdocument.reads] at h
      exact ⟨sections, hdocument, (Except.ok.inj h).symm⟩
    · rw [hload _ hunreadable.reads] at h
      cases h
  · rintro ⟨sections, hdocument, rfl⟩
    exact hload _ hdocument.reads
  · rcases hcases with ⟨sections, hdocument⟩ | ⟨e', hunreadable⟩
    · rw [hload _ hdocument.reads] at h
      cases h
    · rw [hload _ hunreadable.reads] at h
      cases h
      exact hunreadable
  · exact fun hunreadable => hload _ hunreadable.reads
  · rw [get?_pointsOf, Option.bind_map]
    exact congrArg _ (funext fun point => get?_fieldsOf point.entries key)

structure Literal where
  text : String
  scalar : Scalar

section Writing

def headingLine (name : String) : String := name ++ ":"

def entryLine (entry : String × Literal) : String := "  " ++ entry.1 ++ ": " ++ entry.2.text

def PointSection.lines (point : PointSection Literal) : List String :=
  headingLine point.name :: point.entries.map entryLine

def PointSection.evaluated (point : PointSection Literal) : PointSection Scalar :=
  ⟨point.name, point.entries.map fun entry => (entry.1, entry.2.scalar)⟩

structure Writable (name : String) : Prop where
  trimmed : Trimmed name
  unbroken : Unbroken name
  no_comment : name.toList.head? ≠ some '#'

structure PointSection.Writable (point : PointSection Literal) : Prop where
  name : Wms.Writable point.name
  entries : ∀ entry ∈ point.entries, Wms.Writable entry.1 ∧ ':' ∉ entry.1.toList ∧
    parseScalar literalEval entry.2.text = .ok entry.2.scalar

instance (name : String) : Decidable (Writable name) :=
  decidable_of_iff (Trimmed name ∧ Unbroken name ∧ name.toList.head? ≠ some '#')
    ⟨fun h => ⟨h.1, h.2.1, h.2.2⟩, fun h => ⟨h.trimmed, h.unbroken, h.no_comment⟩⟩

variable {literalEval} {sections : List (PointSection Literal)}

lemma parseScalar_stripped (text : String) :
    parseScalar literalEval (String.ofList (stripRight (' ' :: text.toList))) =
      parseScalar literalEval text := by
  have hstrip : strip (String.ofList (stripRight (' ' :: text.toList))) = strip text := by
    rw [strip, strip, String.toList_ofList, stripChars_stripRight,
      stripChars_cons_space (by decide)]
  rw [parseScalar, parseScalar, hstrip]

lemma first_of_trimmed {text : String} (h : Trimmed text) :
    ∀ c ∈ text.toList.head?, isSpace c = false := by
  rw [Trimmed] at h
  rw [← h]
  exact strip_first

lemma Writable.first {name : String} (h : Writable name) (rest : List Char) :
    ∀ c ∈ (name.toList ++ ':' :: rest).head?, isSpace c = false ∧ c ≠ '#' := by
  intro c hc
  cases hname : name.toList with
  | nil =>
    rw [hname] at hc
    obtain rfl : ':' = c := Option.some.inj hc
    decide
  | cons d ds =>
    rw [hname] at hc
    obtain rfl : d = c := Option.some.inj hc
    refine ⟨first_of_trimmed h.trimmed d (by rw [hname]; rfl), ?_⟩
    rintro rfl
    exact h.no_comment (by rw [hname]; rfl)

lemma heading_headingLine {name : String} (h : Writable name) :
    Heading (headingLine name) name := by
  have hlist : (headingLine name).toList = name.toList ++ [':'] := by
    rw [headingLine, String.toList_append]
    rfl
  have hfirst := h.first []
  rw [← hlist] at hfirst
  have htrimmed : strip (headingLine name) = headingLine name := by
    apply trimmed_of_ends
    · exact fun c hc => (hfirst c hc).1
    · rw [hlist, List.getLast?_concat]
      rintro c hc
      obtain rfl : ':' = c := Option.some.inj hc
      decide
  refine ⟨?_, ?_, by rw [htrimmed, hlist]⟩
  · rw [Skipped, htrimmed]
    rintro (hempty | hcomment)
    · rw [hempty] at hlist
      simp at hlist
    · exact (hfirst '#' hcomment).2 rfl
  · intro hspace
    exact absurd (hfirst ' ' hspace).1 (by decide)

lemma entry_entryLine {entry : String × Literal} (h : Writable entry.1)
    (hcolon : ':' ∉ entry.1.toList) :
    Entry (entryLine entry) entry.1 (String.ofList (stripRight (' ' :: entry.2.text.toList))) := by
  obtain ⟨key, ⟨value, scalar⟩⟩ := entry
  have hlist : (entryLine (key, ⟨value, scalar⟩)).toList =
      ' ' :: ' ' :: (key.toList ++ ':' :: ' ' :: value.toList) := by
    simp [entryLine, String.toList_append]
  have hstop : (key.toList ++ ':' :: ' ' :: value.toList).dropWhile isSpace =
      key.toList ++ ':' :: ' ' :: value.toList :=
    dropWhile_eq_self fun c hc => (h.first _ c hc).1
  have hstrip : (strip (entryLine (key, ⟨value, scalar⟩))).toList =
      key.toList ++ ':' :: stripRight (' ' :: value.toList) := by
    rw [strip, String.toList_ofList, hlist, stripChars_cons_space (by decide),
      stripChars_cons_space (by decide), stripChars_eq, hstop, stripRight_append (by decide)]
  refine ⟨?_, by rw [hlist]; rfl, key.toList, ?_, hcolon, ?_⟩
  · rintro (hempty | hcomment)
    · rw [hempty] at hstrip
      simp at hstrip
    · rw [hstrip] at hcomment
      exact (h.first _ '#' hcomment).2 rfl
  · rw [hstrip, String.toList_ofList]
  · rw [String.ofList_toList]
    exact h.trimmed.symm

lemma read_filter (reader : PointReader) (lines : List String) :
    (lines.filter fun line => ¬ Skipped line).foldlM (readPointLine literalEval) reader =
      lines.foldlM (readPointLine literalEval) reader := by
  induction lines generalizing reader with
  | nil => rfl
  | cons line lines ih =>
    rw [List.filter_cons]
    by_cases hskip : Skipped line
    · rw [if_neg (by simpa using hskip), ih, List.foldlM_cons, read_skipped hskip]
      rfl
    · rw [if_pos (by simpa using hskip), List.foldlM_cons, List.foldlM_cons]
      exact congrArg _ (funext fun reader => ih reader)

lemma document_entries {lines : List String} {name : String} {earlier : List (PointSection Scalar)}
    {entries : List (String × Literal)}
    (h : Document literalEval lines (earlier ++ [⟨name, []⟩]))
    (hentries : ∀ entry ∈ entries, Writable entry.1 ∧ ':' ∉ entry.1.toList ∧
      parseScalar literalEval entry.2.text = .ok entry.2.scalar) :
    Document literalEval (lines ++ entries.map entryLine)
      (earlier ++ [⟨name, entries.map fun entry => (entry.1, entry.2.scalar)⟩]) := by
  induction entries using List.reverseRecOn with
  | nil => rwa [List.map_nil, List.append_nil]
  | append_singleton entries entry ih =>
    rw [List.forall_mem_append] at hentries
    obtain ⟨hwritable, hcolon, hvalue⟩ := hentries.2 entry (List.mem_singleton_self entry)
    rw [List.map_append, List.map_append, ← List.append_assoc]
    exact (ih hentries.1).entry (entry_entryLine hwritable hcolon)
      ((parseScalar_stripped entry.2.text).trans hvalue)

lemma document_lines (h : ∀ point ∈ sections, point.Writable literalEval) :
    Document literalEval (sections.flatMap PointSection.lines)
      (sections.map PointSection.evaluated) := by
  induction sections using List.reverseRecOn with
  | nil => exact .nil
  | append_singleton sections point ih =>
    rw [List.forall_mem_append] at h
    have hpoint := h.2 point (List.mem_singleton_self point)
    rw [List.flatMap_append, List.flatMap_singleton, List.map_append, List.map_singleton]
    have hheading := (ih h.1).heading (heading_headingLine hpoint.name)
    have hentries := document_entries hheading hpoint.entries
    rwa [List.append_assoc] at hentries

lemma getLast?_filter_of_nodup {α : Type} {name : α → String} {items : List α} {item : α}
    (hdistinct : (items.map name).Nodup) (hitem : item ∈ items) :
    (items.filter fun other => name other = name item).getLast? = some item := by
  have hone : (items.filter fun other => name other = name item) = [item] := by
    induction items with
    | nil => simp at hitem
    | cons first items ih =>
      rw [List.map_cons, List.nodup_cons] at hdistinct
      rw [List.filter_cons]
      rcases List.mem_cons.mp hitem with rfl | hlater
      · rw [if_pos (by simp)]
        congr 1
        rw [List.filter_eq_nil_iff]
        intro other hother hsame
        rw [decide_eq_true_eq] at hsame
        exact hdistinct.1 (hsame ▸ List.mem_map_of_mem hother)
      · have hne : name first ≠ name item := fun hsame =>
          hdistinct.1 (hsame ▸ List.mem_map_of_mem hlater)
        rw [if_neg (by simpa using hne)]
        exact ih hdistinct.2 hlater
  rw [hone]
  rfl

end Writing

/-- The float that a written number stands for. Whole numbers from the 53rd power of two on are
rounded. -/
inductive Stands : Scalar → Floating → Prop
  | decimal (value : Floating) (shown : String) : Stands (.decimal value shown) value
  | boolean (value : Bool) : Stands (.boolean value) (.finite (if value then 1 else 0))
  | whole {value : ℤ} (h : |value| ≤ 2 ^ 53) : Stands (.integer value) (.finite value)
  | large {value : ℤ} (h : |(value : ℚ)| < doubleRange) :
      Stands (.integer value) (.finite (roundDouble value))

lemma Stands.coordinate {scalar : Scalar} {value : Floating} (h : Stands scalar value)
    (resolved field : String) : Wms.coordinate resolved field (some scalar) = .ok value := by
  have hset : some scalar ≠ some (.text "TBD") := by
    cases h <;> simp
  unfold Wms.coordinate
  rw [if_neg hset]
  cases h with
  | decimal value shown => rfl
  | boolean value => rfl
  | @whole value hsmall =>
    have hfits : |(value : ℚ)| < doubleRange := by
      have hcast : |(value : ℚ)| ≤ 2 ^ 53 := by exact_mod_cast hsmall
      have hrange : (2 : ℚ) ^ 53 < doubleRange := by decide +kernel
      exact hcast.trans_lt hrange
    dsimp only
    rw [floatOfInt, if_pos hfits, roundDouble_intCast hsmall]
  | large hfits =>
    dsimp only
    rw [floatOfInt, if_pos hfits]

structure Targets (point : PointSection Scalar) (pose : Pose) : Prop where
  supported : point.name ∈ supportedTargetNames
  keys : (point.entries.map Prod.fst).Nodup
  map_frame : pose.frameId = "map"
  frame : ("frame_id", .text "map") ∈ point.entries
  coordinates : ∀ field coordinate, (field, coordinate) ∈ [("x", pose.x), ("y", pose.y),
    ("yaw", pose.yaw)] → ∃ scalar, Stands scalar coordinate ∧ (field, scalar) ∈ point.entries

lemma poseOf_targets {point : PointSection Scalar} {pose : Pose} (h : Targets point pose)
    {points : TaskPoints} {fields : Dict String Scalar}
    (hpoint : points.get? point.name = some fields)
    (hfields : ∀ key value, (key, value) ∈ point.entries → fields.get? key = some value) :
    poseOf point.name points = .ok pose := by
  obtain ⟨writtenX, hx, hentryX⟩ := h.coordinates "x" pose.x (by simp)
  obtain ⟨writtenY, hy, hentryY⟩ := h.coordinates "y" pose.y (by simp)
  obtain ⟨writtenYaw, hyaw, hentryYaw⟩ := h.coordinates "yaw" pose.yaw (by simp)
  have hpose : pose = ⟨"map", pose.x, pose.y, pose.yaw⟩ := by rw [← h.map_frame]
  rw [poseOf, if_neg (not_not.mpr h.supported), hpoint]
  simp only [Option.getD_some, hfields _ _ h.frame, hfields _ _ hentryX, hfields _ _ hentryY,
    hfields _ _ hentryYaw, hx.coordinate, hy.coordinate, hyaw.coordinate]
  rw [hpose]
  rfl

/-- Points that are written down, one heading each and among any comments and blank lines, are read
back: every point with every field and what was written evaluates to. So a task to a target goes to
the pose that the file gives it. -/
theorem loadTaskPoints_reads_back (literalEval : String → Except WmsError (Option Scalar))
    (path : String) (sections : List (PointSection Literal))
    (hsections : ∀ point ∈ sections, point.Writable literalEval)
    (hnames : (sections.map PointSection.name).Nodup) (lines : List String)
    (hlines : ∀ line ∈ lines, Unbroken line)
    (hwritten : (lines.filter fun line => ¬ Skipped line) = sections.flatMap PointSection.lines) :
    ∃ points, loadTaskPoints literalEval path (some (joinLines lines)) = .ok points ∧
      (∀ point ∈ sections, (point.entries.map Prod.fst).Nodup →
        ∃ fields, points.get? point.name = some fields ∧
          ∀ key value, (key, value) ∈ point.entries → fields.get? key = some value.scalar) ∧
      ∀ point ∈ sections, ∀ pose, Targets point.evaluated pose →
        resolveTargetPose point.name
          (loadTaskPoints literalEval path (some (joinLines lines))) = .ok (point.name, pose) := by
  have hload : loadTaskPoints literalEval path (some (joinLines lines)) =
      .ok (pointsOf (sections.map PointSection.evaluated)) := by
    rw [loadTaskPoints, splitLines_joinLines hlines, readPointLines, ← read_filter, hwritten]
    exact congrArg _ (document_lines hsections).reads
  have hdistinct : ((sections.map PointSection.evaluated).map PointSection.name).Nodup := by
    rw [List.map_map]
    exact hnames
  have hfields : ∀ point ∈ sections, (point.entries.map Prod.fst).Nodup →
      ∃ fields, (pointsOf (sections.map PointSection.evaluated)).get? point.name = some fields ∧
        ∀ key value, (key, value) ∈ point.evaluated.entries → fields.get? key = some value := by
    intro point hpoint hkeys
    have hpoint' : point.evaluated ∈ sections.map PointSection.evaluated :=
      List.mem_map_of_mem hpoint
    have hkeys' : (point.evaluated.entries.map Prod.fst).Nodup := by
      rw [PointSection.evaluated, List.map_map]
      exact hkeys
    refine ⟨fieldsOf point.evaluated.entries, ?_, ?_⟩
    · have hlast := getLast?_filter_of_nodup hdistinct hpoint'
      rw [get?_pointsOf]
      exact congrArg (Option.map _) hlast
    · intro key value hentry
      have hlast : (point.evaluated.entries.filter fun entry => entry.1 = key).getLast? =
          some (key, value) :=
        getLast?_filter_of_nodup hkeys' hentry
      rw [get?_fieldsOf, hlast, Option.map_some]
  refine ⟨_, hload, ?_, ?_⟩
  · intro point hpoint hkeys
    obtain ⟨fields, hget, hentries⟩ := hfields point hpoint hkeys
    exact ⟨fields, hget, fun key value hentry =>
      hentries key value.scalar (List.mem_map.mpr ⟨(key, value), hentry, rfl⟩)⟩
  · intro point hpoint pose htargets
    have hkeys : (point.entries.map Prod.fst).Nodup := by
      have hkeys := htargets.keys
      rwa [PointSection.evaluated, List.map_map] at hkeys
    obtain ⟨fields, hget, hentries⟩ := hfields point hpoint hkeys
    have hresolve : resolveTargetName point.name
        (pointsOf (sections.map PointSection.evaluated)) = .ok point.name := by
      rw [resolveTargetName, hget]
      rfl
    have hpose : poseOf point.name (pointsOf (sections.map PointSection.evaluated)) = .ok pose :=
      poseOf_targets htargets hget hentries
    rw [hload, resolveTargetPose]
    simp only [bind, Except.bind, hresolve, hpose]
    rfl

def shelfSections : List (PointSection Literal) :=
  [⟨"dock", []⟩, ⟨"shelf_1", [("frame_id", ⟨"map", .text "map"⟩),
    ("x", ⟨"1.5", .decimal (.finite (3 / 2)) "1.5"⟩), ("y", ⟨"-4", .integer (-4)⟩),
    ("yaw", ⟨"0.0", .decimal (.finite 0) "0.0"⟩)]⟩]

def shelfLines : List String :=
  ["# points", "", "dock:", "shelf_1:", "  frame_id: map", "  x: 1.5", "   # TBD", "  y: -4",
    "  yaw: 0.0"]

def shelfLiterals (text : String) : Except WmsError (Option Scalar) :=
  .ok <| [("0.0", Scalar.decimal (.finite 0) "0.0"), ("-4", .integer (-4)),
    ("1.5", .decimal (.finite (3 / 2)) "1.5")].lookup text

lemma shelfSections_writable : ∀ point ∈ shelfSections, point.Writable shelfLiterals := by
  intro point hpoint
  simp only [shelfSections, List.mem_cons, List.not_mem_nil, or_false] at hpoint
  rcases hpoint with rfl | rfl <;> refine ⟨by decide +kernel, ?_⟩ <;> decide +kernel

theorem loadTaskPoints_reads_back_shelf :
    resolveTargetPose "shelf_1" (loadTaskPoints shelfLiterals "task_points.yaml"
      (some (joinLines shelfLines))) =
        .ok ("shelf_1", ⟨"map", .finite (3 / 2), .finite (-4 : ℤ), .finite 0⟩) := by
  obtain ⟨points, -, -, htargets⟩ := loadTaskPoints_reads_back shelfLiterals "task_points.yaml"
    shelfSections shelfSections_writable (by decide +kernel) shelfLines (by decide +kernel)
    (by decide +kernel)
  refine htargets ⟨"shelf_1", _⟩ (List.mem_cons_of_mem _ (List.mem_singleton_self _)) _ ?_
  refine ⟨by decide, by decide, rfl, by simp [PointSection.evaluated], ?_⟩
  simp only [List.mem_cons, Prod.mk.injEq, List.not_mem_nil, or_false]
  rintro field coordinate (⟨rfl, rfl⟩ | ⟨rfl, rfl⟩ | ⟨rfl, rfl⟩)
  · exact ⟨_, .decimal (.finite (3 / 2)) "1.5", by simp [PointSection.evaluated]⟩
  · exact ⟨_, .whole (by decide), by simp [PointSection.evaluated]⟩
  · exact ⟨_, .decimal (.finite 0) "0.0", by simp [PointSection.evaluated]⟩

end Wms
