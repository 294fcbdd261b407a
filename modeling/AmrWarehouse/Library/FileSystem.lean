import AmrWarehouse.Library.Calls
import AmrWarehouse.Library.PosixPath

/-! A tree of directories and files, named by their resolved paths, and the calls that make and
read them. -/

namespace Library

inductive Node
  | directory
  | file (content : List UInt8)
  deriving DecidableEq

inductive OsError
  | fileNotFound
  | fileExists
  | notADirectory
  | isADirectory
  | fileNameTooLong
  | inputOutput
  deriving DecidableEq, Repr

structure FileSystem where
  node : List String → Option Node
  top : node [] = some .directory
  parent : ∀ place name, (node (place ++ [name])).isSome → node place = some .directory

namespace FileSystem

open PosixPath

def empty : FileSystem where
  node := fun place => if place = [] then some .directory else none
  top := rfl
  parent place name h := by simp at h

@[ext] lemma ext {fs gs : FileSystem} (h : fs.node = gs.node) : fs = gs := by
  cases fs
  cases gs
  cases h
  rfl

lemma parent_of_isSome (fs : FileSystem) {place : List String} (h : (fs.node place).isSome) :
    fs.node place.dropLast = some .directory := by
  induction place using List.reverseRecOn with
  | nil => exact fs.top
  | append_singleton place name =>
    rw [List.dropLast_concat]
    exact fs.parent place name h

def add (fs : FileSystem) (place : List String) (new : Node) (hfree : fs.node place = none)
    (hparent : fs.node place.dropLast = some .directory) : FileSystem where
  node := Function.update fs.node place (some new)
  top := by
    rw [Function.update_of_ne, fs.top]
    rintro rfl
    simp [fs.top] at hfree
  parent other name hname := by
    have hother : fs.node other = some .directory := by
      by_cases hplace : other ++ [name] = place
      · rwa [← hplace, List.dropLast_concat] at hparent
      · rw [Function.update_of_ne hplace] at hname
        exact fs.parent other name hname
    rw [Function.update_of_ne, hother]
    rintro rfl
    simp [hother] at hfree

def walk (fs : FileSystem) (here : List String) : List String → Except OsError (List String)
  | [] => .ok here
  | name :: rest =>
    if nameMax < name.utf8ByteSize then .error .fileNameTooLong
    else if ¬ Plain name ∨ rest = [] then walk fs (enter here name) rest
    else
      match fs.node (enter here name) with
      | some .directory => walk fs (enter here name) rest
      | some (.file _) => .error .notADirectory
      | none => .error .fileNotFound

/-- Every component but the last has to be a directory that is there. -/
def locate (fs : FileSystem) (path : PosixPath) : Except OsError (List String) :=
  if pathMax ≤ path.text.utf8ByteSize then .error .fileNameTooLong
  else fs.walk [] (Library.components path.text)

def create (new : Node) (path : PosixPath) : EStateM OsError FileSystem Unit := do
  let fs ← get
  let place ← orRaise (fs.locate path)
  if hfree : fs.node place = none then
    if hparent : fs.node place.dropLast = some .directory then
      set (fs.add place new hfree hparent)
    else throw .fileNotFound
  else throw .fileExists

def isDirectory (fs : FileSystem) (path : PosixPath) : Bool :=
  match fs.locate path with
  | .ok place => fs.node place = some .directory
  | .error _ => false

/-- `Path.mkdir(exist_ok=True)`. -/
def mkdir (path : PosixPath) : EStateM OsError FileSystem Unit := do
  match ← attempt (create .directory path) with
  | .ok () => pure ()
  | .error e =>
    let fs ← get
    if e = .fileNotFound ∨ ¬ fs.isDirectory path then throw e

/-- `Path.mkdir(parents=True, exist_ok=True)`: a path that is too long is refused before its parents
are made. -/
def mkdirParents (path : PosixPath) : EStateM OsError FileSystem Unit := do
  whenever (pathMax ≤ path.text.utf8ByteSize) (throw .fileNameTooLong)
  discard (path.withParents.mapM mkdir)

def readBytes (path : PosixPath) : EStateM OsError FileSystem (List UInt8) := do
  let fs ← get
  let place ← orRaise (fs.locate path)
  match fs.node place with
  | some (.file content) => pure content
  | some .directory => throw .isADirectory
  | none => throw .fileNotFound

/-- `open('xb')` and what is written then. When writing fails, the bytes counted have reached the
file. -/
def writeExclusive (fault : Option ℕ) (path : PosixPath) (content : List UInt8) :
    EStateM OsError FileSystem Unit := do
  create (.file (content.take (fault.getD content.length))) path
  whenever (fault.isSome) (throw .inputOutput)

section Walk

variable {fs gs : FileSystem} {here rest place : List String}

lemma walk_ok (h : fs.walk here rest = .ok place) : place = rest.foldl enter here := by
  induction rest generalizing here with
  | nil => exact (Except.ok.inj h).symm
  | cons name rest ih =>
    rw [walk] at h
    rw [List.foldl_cons]
    split_ifs at h with hlong hplain
    · exact ih h
    · split at h
      · exact ih h
      · simp at h
      · simp at h

lemma node_enter {name : String} (hhere : fs.node here = some .directory) (h : ¬ Plain name) :
    fs.node (enter here name) = some .directory := by
  rw [enter]
  split_ifs with hdot hdots
  · exact hhere
  · exact fs.parent_of_isSome (by rw [hhere]; rfl)
  · exact absurd ⟨hdot, hdots⟩ h

lemma walk_short (h : fs.walk here rest = .ok place) :
    ∀ name ∈ rest, name.utf8ByteSize ≤ nameMax := by
  induction rest generalizing here with
  | nil => simp
  | cons name rest ih =>
    rw [walk] at h
    rw [List.forall_mem_cons]
    split_ifs at h with hlong hplain
    · exact ⟨not_lt.mp hlong, ih h⟩
    · split at h
      · exact ⟨not_lt.mp hlong, ih h⟩
      · simp at h
      · simp at h

lemma walk_inside (hhere : fs.node here = some .directory) (h : fs.walk here rest = .ok place) :
    fs.node place = some .directory ∨ fs.node place.dropLast = some .directory := by
  induction rest generalizing here with
  | nil =>
    obtain rfl := Except.ok.inj h
    exact Or.inl hhere
  | cons name rest ih =>
    rw [walk] at h
    have hshort : ¬ nameMax < name.utf8ByteSize := fun hlong => by simp [if_pos hlong] at h
    rw [if_neg hshort] at h
    by_cases hplain : Plain name
    · split_ifs at h with hlast
      · obtain rfl : rest = [] := by tauto
        obtain rfl := Except.ok.inj h
        rw [enter_of_plain hplain, List.dropLast_concat]
        exact Or.inr hhere
      · split at h
        · exact ih ‹_› h
        · simp at h
        · simp at h
    · rw [if_pos (Or.inl hplain)] at h
      exact ih (node_enter hhere hplain) h

lemma walk_error {e : OsError} (h : fs.walk here rest = .error e) :
    e = .fileNotFound ∨ e = .notADirectory ∨ e = .fileNameTooLong := by
  induction rest generalizing here with
  | nil => cases h
  | cons name rest ih =>
    rw [walk] at h
    split_ifs at h with hlong hplain
    · exact Or.inr (Or.inr (Except.error.inj h).symm)
    · exact ih h
    · split at h
      · exact ih h
      · exact Or.inr (Or.inl (Except.error.inj h).symm)
      · exact Or.inl (Except.error.inj h).symm

lemma walk_snoc {name : String} (hhere : fs.node here = some .directory)
    (h : fs.walk here rest = .ok place) (hplace : fs.node place = some .directory) :
    fs.walk here (rest ++ [name]) =
      if nameMax < name.utf8ByteSize then .error .fileNameTooLong else .ok (enter place name) := by
  induction rest generalizing here with
  | nil =>
    obtain rfl := Except.ok.inj h
    rw [List.nil_append, walk]
    simp only [or_true, if_true]
    rfl
  | cons other rest ih =>
    rw [walk] at h
    have hshort : ¬ nameMax < other.utf8ByteSize := fun hlong => by simp [if_pos hlong] at h
    rw [if_neg hshort] at h
    rw [List.cons_append, walk, if_neg hshort]
    by_cases hplain : Plain other
    · rw [if_neg (by simp [hplain])]
      split_ifs at h with hlast
      · obtain rfl : rest = [] := by tauto
        obtain rfl := Except.ok.inj h
        rw [hplace]
        exact ih hplace rfl
      · split at h
        · exact ih ‹_› h
        · simp at h
        · simp at h
    · rw [if_pos (Or.inl hplain)] at h ⊢
      exact ih (node_enter hhere hplain) h

def Grows (fs gs : FileSystem) : Prop := ∀ place node, fs.node place = some node →
  gs.node place = some node

lemma Grows.refl (fs : FileSystem) : Grows fs fs := fun _ _ h => h

lemma Grows.trans {hs : FileSystem} (h : Grows fs gs) (h' : Grows gs hs) : Grows fs hs :=
  fun place node hnode => h' place node (h place node hnode)

lemma Grows.walk (h : Grows fs gs) (hwalk : fs.walk here rest = .ok place) :
    gs.walk here rest = .ok place := by
  induction rest generalizing here with
  | nil => exact hwalk
  | cons name rest ih =>
    rw [FileSystem.walk] at hwalk ⊢
    split_ifs at hwalk ⊢ with hlong hplain
    · exact ih hwalk
    · split at hwalk
      · rw [h _ _ ‹_›]
        exact ih hwalk
      · simp at hwalk
      · simp at hwalk

end Walk

section Locate

variable {fs gs : FileSystem} {path : PosixPath} {place : List String}

lemma locate_eq (fs : FileSystem) (path : PosixPath) : fs.locate path =
    if pathMax ≤ path.text.utf8ByteSize then .error .fileNameTooLong
    else fs.walk [] path.parts := by
  rw [locate, path.components_text]

lemma walk_of_locate (h : fs.locate path = .ok place) : fs.walk [] path.parts = .ok place := by
  rw [locate_eq] at h
  split_ifs at h
  exact h

lemma fits_of_locate (h : fs.locate path = .ok place) : path.Fits := by
  refine ⟨?_, walk_short (walk_of_locate h)⟩
  rw [locate_eq] at h
  split_ifs at h with hlong
  exact not_le.mp hlong

lemma locate_ok (h : fs.locate path = .ok place) : place = resolve path.parts :=
  walk_ok (walk_of_locate h)

lemma locate_inside (h : fs.locate path = .ok place) (hfree : fs.node place = none) :
    fs.node place.dropLast = some .directory := by
  rcases walk_inside fs.top (walk_of_locate h) with hnode | hnode
  · simp [hfree] at hnode
  · exact hnode

lemma locate_error {e : OsError} (h : fs.locate path = .error e) : e ≠ .inputOutput := by
  rw [locate_eq] at h
  split_ifs at h
  · obtain rfl := Except.error.inj h
    simp
  · rcases walk_error h with rfl | rfl | rfl <;> simp

lemma Grows.locate (h : Grows fs gs) (hloc : fs.locate path = .ok place) :
    gs.locate path = .ok place := by
  rw [locate_eq] at hloc ⊢
  split_ifs at hloc ⊢
  exact h.walk hloc

lemma locate_join {name : String} (hloc : fs.locate path = .ok place)
    (hplace : fs.node place = some .directory) (hcomponent : Component name) :
    fs.locate (path.join name) =
      if (path.join name).Fits then .ok (enter place name) else .error .fileNameTooLong := by
  have hparts : (path.join name).parts = path.parts ++ if name = "." then [] else [name] :=
    PosixPath.parts_join hcomponent
  have hfits := fits_of_locate hloc
  have hwalk : fs.walk [] (path.parts ++ [name]) = _ :=
    walk_snoc fs.top (walk_of_locate hloc) hplace
  rw [locate_eq]
  by_cases hdot : name = "."
  · rw [if_pos hdot, List.append_nil] at hparts
    rw [← locate_eq, PosixPath.ext hparts, if_pos hfits, enter, if_pos hdot, hloc]
  · rw [if_neg hdot] at hparts
    have hnames : (path.join name).Fits ↔ ¬ pathMax ≤ (path.join name).text.utf8ByteSize ∧
        ¬ nameMax < name.utf8ByteSize := by
      rw [Fits, hparts, List.forall_mem_append, List.forall_mem_singleton, not_le, not_lt]
      exact and_congr_right fun _ => and_iff_right hfits.2
    rw [hparts, hwalk]
    split_ifs <;> simp_all

end Locate

section Calls

variable {fs : FileSystem} {path : PosixPath} {place : List String} {new : Node}

/-- At most this place has changed, and only from vacant. -/
structure Adds (place : List String) (fs gs : FileSystem) : Prop where
  others : ∀ other, other ≠ place → gs.node other = fs.node other
  grows : Grows fs gs

lemma Adds.refl (place : List String) (fs : FileSystem) : Adds place fs fs :=
  ⟨fun _ _ => rfl, Grows.refl fs⟩

lemma node_add (hfree : fs.node place = none) (hparent : fs.node place.dropLast = some .directory) :
    (fs.add place new hfree hparent).node place = some new :=
  Function.update_self ..

lemma node_add_of_ne (hfree : fs.node place = none)
    (hparent : fs.node place.dropLast = some .directory) {other : List String}
    (h : other ≠ place) : (fs.add place new hfree hparent).node other = fs.node other :=
  Function.update_of_ne h _ _

lemma adds_add (new : Node) (hfree : fs.node place = none)
    (hparent : fs.node place.dropLast = some .directory) :
    Adds place fs (fs.add place new hfree hparent) := by
  refine ⟨fun other hother => node_add_of_ne hfree hparent hother, fun other node hnode => ?_⟩
  rw [node_add_of_ne hfree hparent, hnode]
  rintro rfl
  simp [hfree] at hnode

lemma run_create (hloc : fs.locate path = .ok place) :
    (create new path).run fs =
      if hfree : fs.node place = none then
        .ok () (fs.add place new hfree (locate_inside hloc hfree))
      else .error .fileExists fs := by
  split_ifs with hfree
  · simp only [create, EStateM.run_bind, EStateM.run_get, hloc, run_orRaise_ok, dif_pos hfree,
      dif_pos (locate_inside hloc hfree)]
    rfl
  · simp only [create, EStateM.run_bind, EStateM.run_get, hloc, run_orRaise_ok, dif_neg hfree]
    rfl

lemma run_create_error {e : OsError} (hloc : fs.locate path = .error e) :
    (create new path).run fs = .error e fs := by
  simp only [create, EStateM.run_bind, EStateM.run_get, hloc, run_orRaise_error]

lemma run_mkdir_of_directory (hloc : fs.locate path = .ok place)
    (hnode : fs.node place = some .directory) : (mkdir path).run fs = .ok () fs := by
  have hcreate : (create .directory path).run fs = .error .fileExists fs := by
    rw [run_create hloc, dif_neg (by simp [hnode])]
  have hdirectory : fs.isDirectory path = true := by simp [isDirectory, hloc, hnode]
  simp only [mkdir, EStateM.run_bind, run_attempt, hcreate, EStateM.run_get, hdirectory]
  rfl

lemma mkdir_cases (path : PosixPath) (fs : FileSystem) :
    (∃ gs, (mkdir path).run fs = .ok () gs ∧ Adds (resolve path.parts) fs gs ∧
      gs.locate path = .ok (resolve path.parts) ∧
      gs.node (resolve path.parts) = some .directory) ∨
    ∃ e, e ≠ .inputOutput ∧ (mkdir path).run fs = .error e fs := by
  cases hloc : fs.locate path with
  | error e =>
    have hdirectory : fs.isDirectory path = false := by simp [isDirectory, hloc]
    refine Or.inr ⟨e, ?_, ?_⟩
    · exact locate_error hloc
    · simp only [mkdir, EStateM.run_bind, run_attempt, run_create_error hloc, EStateM.run_get,
        hdirectory]
      rw [if_pos (Or.inr (by simp)), run_raise]
  | ok place =>
    obtain rfl := locate_ok hloc
    cases hnode : fs.node (resolve path.parts) with
    | none =>
      have hadds := adds_add .directory hnode (locate_inside hloc hnode)
      refine Or.inl ⟨_, ?_, hadds, hadds.grows.locate hloc, node_add hnode _⟩
      simp only [mkdir, EStateM.run_bind, run_attempt, run_create hloc, dif_pos hnode]
      rfl
    | some node =>
      cases node with
      | directory =>
        exact Or.inl ⟨fs, run_mkdir_of_directory hloc hnode, Adds.refl _ fs, hloc, hnode⟩
      | file content =>
        have hfree : ¬ fs.node (resolve path.parts) = none := by simp [hnode]
        have hdirectory : fs.isDirectory path = false := by simp [isDirectory, hloc, hnode]
        refine Or.inr ⟨.fileExists, by simp, ?_⟩
        simp only [mkdir, EStateM.run_bind, run_attempt, run_create hloc, dif_neg hfree,
          EStateM.run_get, hdirectory]
        rfl

lemma exists_run_mkdir (hloc : fs.locate path = .ok place)
    (hfree : fs.node place = none ∨ fs.node place = some .directory) : ∃ gs,
    (mkdir path).run fs = .ok () gs ∧ Adds place fs gs ∧ gs.node place = some .directory := by
  rcases hfree with hfree | hdirectory
  · refine ⟨_, ?_, adds_add .directory hfree (locate_inside hloc hfree), node_add hfree _⟩
    simp only [mkdir, EStateM.run_bind, run_attempt, run_create hloc, dif_pos hfree]
    rfl
  · exact ⟨fs, run_mkdir_of_directory hloc hdirectory, Adds.refl _ fs, hdirectory⟩

lemma run_writeExclusive_of_vacant {fault : Option ℕ} {content : List UInt8}
    (hloc : fs.locate path = .ok place) (hfree : fs.node place = none) :
    (writeExclusive fault path content).run fs =
      if fault.isSome then
        .error .inputOutput (fs.add place (.file (content.take (fault.getD content.length))) hfree
          (locate_inside hloc hfree))
      else
        .ok () (fs.add place (.file (content.take (fault.getD content.length))) hfree
          (locate_inside hloc hfree)) := by
  simp only [writeExclusive, EStateM.run_bind, run_create hloc, dif_pos hfree, whenever]
  split_ifs
  · rfl
  · rfl

lemma run_writeExclusive_of_taken {fault : Option ℕ} {content : List UInt8}
    (hloc : fs.locate path = .ok place) (h : fs.node place ≠ none) :
    (writeExclusive fault path content).run fs = .error .fileExists fs := by
  simp only [writeExclusive, EStateM.run_bind, run_create hloc, dif_neg h]

lemma run_writeExclusive_of_unlocated {fault : Option ℕ} {content : List UInt8} {e : OsError}
    (hloc : fs.locate path = .error e) :
    (writeExclusive fault path content).run fs = .error e fs := by
  simp only [writeExclusive, EStateM.run_bind, run_create_error hloc]

lemma run_readBytes_of_file {content : List UInt8} (hloc : fs.locate path = .ok place)
    (h : fs.node place = some (.file content)) : (readBytes path).run fs = .ok content fs := by
  simp only [readBytes, EStateM.run_bind, EStateM.run_get, hloc, run_orRaise_ok, h]
  rfl

lemma run_readBytes_of_directory (hloc : fs.locate path = .ok place)
    (h : fs.node place = some .directory) :
    (readBytes path).run fs = .error .isADirectory fs := by
  simp only [readBytes, EStateM.run_bind, EStateM.run_get, hloc, run_orRaise_ok, h]
  rfl

end Calls

end FileSystem

end Library
