import AmrWarehouse.Inspection.Models
import AmrWarehouse.Library.FileSystem

/-! The store of evidence: one file for each attempt, written once. -/

namespace Inspection

open Library

inductive EvidenceError
  | valueError (message : String)
  | evidenceConflict (message : String)
  | osError (error : OsError)
  deriving DecidableEq

/-- The characters of `_SAFE_COMPONENT`. -/
def safeCharacter (c : Char) : Bool := c.isAlphanum || c ∈ "_.:-".toList

def SafeComponent (value : String) : Prop :=
  value ≠ "" ∧ ∀ c ∈ value.toList, safeCharacter c = true

instance (value : String) : Decidable (SafeComponent value) :=
  @instDecidableAnd _ _ inferInstance (List.decidableBAll _ value.toList)

def validateComponent (value fieldName : String) : Except EvidenceError Unit :=
  if SafeComponent value then .ok ()
  else .error (.valueError (s!"{fieldName} must contain only letters, digits, dot, " ++
    "underscore, colon, or dash."))

structure EvidencePayload where
  schemaVersion : String := "inspection-evidence-v1"
  runId : String
  attempt : PointAttemptSnapshot
  deriving DecidableEq

lemma component_of_safe {value : String} (h : SafeComponent value) : Component value := by
  refine ⟨h.1, fun hslash => ?_⟩
  exact absurd (h.2 _ hslash) (by decide)

def artifactName (attemptId : String) : String := s!"{attemptId}.json"

lemma toList_artifactName (attemptId : String) :
    (artifactName attemptId).toList = attemptId.toList ++ ".json".toList := by
  rw [artifactName]
  simp [toString]

lemma component_artifactName {attemptId : String} (h : SafeComponent attemptId) :
    Component (artifactName attemptId) := by
  refine ⟨fun hempty => ?_, ?_⟩
  · have hlist := toList_artifactName attemptId
    rw [hempty] at hlist
    simp at hlist
  · rw [toList_artifactName, List.mem_append, not_or]
    exact ⟨(component_of_safe h).2, by decide⟩

lemma plain_artifactName (attemptId : String) : Plain (artifactName attemptId) := by
  have hlength : 5 ≤ (artifactName attemptId).toList.length := by
    rw [toList_artifactName, List.length_append]
    exact Nat.le_add_left _ _
  refine ⟨?_, ?_⟩
  · intro h
    rw [h] at hlength
    exact absurd hlength (by decide)
  · intro h
    rw [h] at hlength
    exact absurd hlength (by decide)

lemma artifactName_injective {a b : String} (h : artifactName a = artifactName b) : a = b := by
  have hlist := congrArg String.toList h
  rw [toList_artifactName, toList_artifactName] at hlist
  exact String.toList_inj.mp (List.append_cancel_right hlist)

/-- `json.dumps` and `sha256(..).hexdigest()`. -/
structure EvidenceCodec where
  dumps : EvidencePayload → String
  hexdigest : List UInt8 → String
  hexdigest_length : ∀ content, (hexdigest content).length = 64
  hexdigest_digits : ∀ content, ∀ c ∈ (hexdigest content).toList, isHexDigit c = true

variable (codec : EvidenceCodec)

def encodeEvidence (runId : String) (attempt : PointAttemptSnapshot) : List UInt8 :=
  (codec.dumps { runId := runId, attempt := attempt } ++ "\n").toUTF8.data.toList

lemma filled_asUri (path : PosixPath) : Filled path.asUri := by
  refine filled_iff.mpr ⟨'f', ?_, by decide⟩
  rw [PosixPath.asUri, String.toList_append]
  exact List.mem_append_left _ (by decide)

def evidenceReference (path : PosixPath) (content : List UInt8) : EvidenceReference where
  uri := path.asUri
  sha256 := codec.hexdigest content
  uri_filled := filled_asUri path
  sha256_length := codec.hexdigest_length content
  sha256_digits := codec.hexdigest_digits content

/-- What can fail in a call: making the directory, opening the file, or writing, flushing or syncing
it, when the bytes counted have reached the file. -/
inductive IoFault
  | directory
  | opening
  | writing (reached : ℕ)
  deriving DecidableEq, Repr

def IoFault.reached? : IoFault → Option ℕ
  | writing reached => some reached
  | _ => none

/-- The root has been resolved when the store was made. -/
structure LocalJsonEvidenceStore where
  root : PosixPath
  resolved : ∀ name ∈ root.parts, Plain name

namespace LocalJsonEvidenceStore

def create (root : PosixPath) : EStateM EvidenceError FileSystem LocalJsonEvidenceStore := do
  let root' := root.resolved
  mapError .osError (FileSystem.mkdirParents root')
  let fs ← get
  whenever (¬ fs.isDirectory root')
    (throw (.valueError "Evidence root must be a directory."))
  return ⟨root', fun _ h => (mem_resolve h).2⟩

variable (store : LocalJsonEvidenceStore)

def runDirectory (runId : String) : PosixPath := store.root.join runId

def artifactPath (runId attemptId : String) : PosixPath :=
  (store.runDirectory runId).join (artifactName attemptId)

def recordEvidence (fault : Option ℕ) (artifactPath : PosixPath) (encoded : List UInt8) :
    EStateM EvidenceError FileSystem Unit := do
  match ← Library.attempt (mapError .osError
      (FileSystem.writeExclusive fault artifactPath encoded)) with
  | .ok () => pure ()
  | .error (.osError .fileExists) =>
    let content ← mapError .osError (FileSystem.readBytes artifactPath)
    whenever (content ≠ encoded) (throw (.evidenceConflict
      s!"Evidence already exists with different content: {artifactPath.text}"))
  | .error e => throw e

def persistAttempt (fault : Option IoFault) (runId : String) (attempt : PointAttemptSnapshot) :
    EStateM EvidenceError FileSystem EvidenceReference := do
  orRaise (validateComponent runId "run_id")
  orRaise (validateComponent attempt.attemptId "attempt_id")
  whenever (fault = some .directory) (throw (.osError .inputOutput))
  mapError .osError (FileSystem.mkdir (store.runDirectory runId))
  whenever (fault = some .opening) (throw (.osError .inputOutput))
  let artifactPath := store.artifactPath runId attempt.attemptId
  let encoded := encodeEvidence codec runId attempt
  recordEvidence (fault.bind IoFault.reached?) artifactPath encoded
  return evidenceReference codec artifactPath encoded

section Paths

variable {store : LocalJsonEvidenceStore} {runId attemptId : String}

lemma resolve_runDirectory (h : SafeComponent runId) :
    resolve (store.runDirectory runId).parts = enter store.root.parts runId := by
  rw [runDirectory, PosixPath.parts_join (component_of_safe h)]
  split_ifs with hdot
  · rw [List.append_nil, resolve_of_plain store.resolved, hdot]
    rfl
  · rw [resolve_append, resolve_of_plain store.resolved]

lemma resolve_artifactPath (hrun : SafeComponent runId) (hattempt : SafeComponent attemptId) :
    resolve (store.artifactPath runId attemptId).parts =
      enter store.root.parts runId ++ [artifactName attemptId] := by
  rw [artifactPath, PosixPath.parts_join (component_artifactName hattempt),
    if_neg (plain_artifactName attemptId).1, resolve_append, enter_of_plain
    (plain_artifactName attemptId), resolve_runDirectory hrun]

end Paths

section Record

open FileSystem

variable {fs : FileSystem} {path : PosixPath} {place : List String} {fault : Option ℕ}
  {encoded : List UInt8}

lemma run_recordEvidence_of_vacant (hloc : fs.locate path = .ok place)
    (hfree : fs.node place = none) :
    (recordEvidence fault path encoded).run fs =
      if fault.isSome then
        .error (.osError .inputOutput) (fs.add place
          (.file (encoded.take (fault.getD encoded.length))) hfree (locate_inside hloc hfree))
      else
        .ok () (fs.add place (.file (encoded.take (fault.getD encoded.length))) hfree
          (locate_inside hloc hfree)) := by
  simp only [recordEvidence, EStateM.run_bind, run_attempt, run_mapError,
    run_writeExclusive_of_vacant hloc hfree]
  split_ifs
  · rfl
  · rfl

lemma run_recordEvidence_of_file {content : List UInt8} (hloc : fs.locate path = .ok place)
    (hnode : fs.node place = some (.file content)) :
    (recordEvidence fault path encoded).run fs =
      if content = encoded then .ok () fs
      else .error (.evidenceConflict
        s!"Evidence already exists with different content: {path.text}") fs := by
  have htaken : fs.node place ≠ none := by simp [hnode]
  simp only [recordEvidence, EStateM.run_bind, run_attempt, run_mapError,
    run_writeExclusive_of_taken hloc htaken, run_readBytes_of_file hloc hnode, whenever]
  by_cases heq : content = encoded
  · rw [if_neg (not_not.mpr heq), if_pos heq]
    rfl
  · rw [if_pos heq, if_neg heq]
    rfl

lemma run_recordEvidence_of_unlocated {e : OsError} (hloc : fs.locate path = .error e)
    (he : e ≠ .fileExists) :
    (recordEvidence fault path encoded).run fs = .error (.osError e) fs := by
  simp only [recordEvidence, EStateM.run_bind, run_attempt, run_mapError,
    run_writeExclusive_of_unlocated hloc]
  cases e <;> first | rfl | exact absurd rfl he

lemma run_recordEvidence_of_directory (hloc : fs.locate path = .ok place)
    (hnode : fs.node place = some .directory) :
    (recordEvidence fault path encoded).run fs = .error (.osError .isADirectory) fs := by
  have htaken : fs.node place ≠ none := by simp [hnode]
  simp only [recordEvidence, EStateM.run_bind, run_attempt, run_mapError,
    run_writeExclusive_of_taken hloc htaken, run_readBytes_of_directory hloc hnode]

end Record

section Persist

open FileSystem

variable {codec} {store : LocalJsonEvidenceStore} {fault : Option IoFault} {runId : String}
  {attempt : PointAttemptSnapshot} {fs gs : FileSystem}

def recorded (store : LocalJsonEvidenceStore) (codec : EvidenceCodec) (fault : Option ℕ)
    (runId : String) (attempt : PointAttemptSnapshot) :
    EStateM EvidenceError FileSystem EvidenceReference := do
  recordEvidence fault (store.artifactPath runId attempt.attemptId)
    (encodeEvidence codec runId attempt)
  return evidenceReference codec (store.artifactPath runId attempt.attemptId)
    (encodeEvidence codec runId attempt)

def directoryPlace (store : LocalJsonEvidenceStore) (runId : String) : List String :=
  resolve (store.runDirectory runId).parts

def artifactPlace (store : LocalJsonEvidenceStore) (runId attemptId : String) : List String :=
  resolve (store.artifactPath runId attemptId).parts

structure Prepared (store : LocalJsonEvidenceStore) (runId : String) (fs : FileSystem) : Prop where
  located : fs.locate (store.runDirectory runId) = .ok (store.directoryPlace runId)
  directory : fs.node (store.directoryPlace runId) = some .directory

lemma Prepared.grows (h : Prepared store runId fs) (hgrows : Grows fs gs) :
    Prepared store runId gs :=
  ⟨hgrows.locate h.located, hgrows _ _ h.directory⟩

lemma artifactPlace_eq (hrun : SafeComponent runId) {attemptId : String}
    (hattempt : SafeComponent attemptId) :
    store.artifactPlace runId attemptId =
      store.directoryPlace runId ++ [artifactName attemptId] := by
  rw [artifactPlace, directoryPlace, resolve_artifactPath hrun hattempt, resolve_runDirectory hrun]

lemma Prepared.locate_artifact (h : Prepared store runId fs) (hrun : SafeComponent runId)
    {attemptId : String} (hattempt : SafeComponent attemptId) :
    fs.locate (store.artifactPath runId attemptId) =
      if (store.artifactPath runId attemptId).Fits then .ok (store.artifactPlace runId attemptId)
      else .error .fileNameTooLong := by
  rw [artifactPlace_eq hrun hattempt, ← enter_of_plain (plain_artifactName attemptId)]
  exact locate_join h.located h.directory (component_artifactName hattempt)

lemma run_validateComponent (value fieldName : String) :
    (orRaise (validateComponent value fieldName) : EStateM EvidenceError FileSystem Unit).run fs =
      if SafeComponent value then .ok () fs
      else .error (.valueError (s!"{fieldName} must contain only letters, digits, dot, " ++
        "underscore, colon, or dash.")) fs := by
  rw [validateComponent]
  split_ifs
  · rfl
  · rfl

variable (codec store fault fs) in
lemma run_persistAttempt_of_unsafe (h : ¬ (SafeComponent runId ∧ SafeComponent attempt.attemptId)) :
    ∃ message, (store.persistAttempt codec fault runId attempt).run fs =
      .error (.valueError message) fs := by
  by_cases hrun : SafeComponent runId
  · simp only [persistAttempt, EStateM.run_bind, run_validateComponent, if_pos hrun,
      if_neg fun hattempt => h ⟨hrun, hattempt⟩]
    exact ⟨_, rfl⟩
  · simp only [persistAttempt, EStateM.run_bind, run_validateComponent, if_neg hrun]
    exact ⟨_, rfl⟩

variable (codec) in
lemma run_persistAttempt_of_mkdir (hrun : SafeComponent runId)
    (hattempt : SafeComponent attempt.attemptId) (hdirectory : fault ≠ some .directory)
    (hopening : fault ≠ some .opening)
    (hmkdir : (mkdir (store.runDirectory runId)).run fs = .ok () gs) :
    (store.persistAttempt codec fault runId attempt).run fs =
      (store.recorded codec (fault.bind IoFault.reached?) runId attempt).run gs := by
  simp only [persistAttempt, recorded, EStateM.run_bind, run_validateComponent, if_pos hrun,
    if_pos hattempt, whenever, if_neg hdirectory, if_neg hopening, EStateM.run_pure,
    run_mapError, hmkdir]

lemma run_persistAttempt_of_prepared (h : Prepared store runId fs) (hrun : SafeComponent runId)
    (hattempt : SafeComponent attempt.attemptId) :
    (store.persistAttempt codec none runId attempt).run fs =
      (store.recorded codec none runId attempt).run fs :=
  run_persistAttempt_of_mkdir codec hrun hattempt (by simp) (by simp)
    (run_mkdir_of_directory h.located h.directory)

lemma run_recorded_of_unlocated {fault : Option ℕ}
    (hloc : gs.locate (store.artifactPath runId attempt.attemptId) = .error .fileNameTooLong) :
    (store.recorded codec fault runId attempt).run gs = .error (.osError .fileNameTooLong) gs := by
  simp only [recorded, EStateM.run_bind, run_recordEvidence_of_unlocated hloc (by simp)]

variable (codec store) in
lemma persistAttempt_cases (hrun : SafeComponent runId) (hattempt : SafeComponent attempt.attemptId)
    (fault : Option IoFault) (fs : FileSystem) :
    ∃ gs, Adds (store.directoryPlace runId) fs gs ∧
      ((∃ e, (∀ n, fault = some (.writing n) → e ≠ .osError .inputOutput) ∧
        (store.persistAttempt codec fault runId attempt).run fs = .error e gs) ∨
      (Prepared store runId gs ∧
        gs.locate (store.artifactPath runId attempt.attemptId) =
          .ok (store.artifactPlace runId attempt.attemptId) ∧
        (store.persistAttempt codec fault runId attempt).run fs =
          (store.recorded codec (fault.bind IoFault.reached?) runId attempt).run gs)) := by
  by_cases hdirectory : fault = some .directory
  · refine ⟨fs, Adds.refl _ fs, Or.inl ⟨.osError .inputOutput, by simp [hdirectory], ?_⟩⟩
    simp only [persistAttempt, EStateM.run_bind, run_validateComponent, if_pos hrun,
      if_pos hattempt, whenever, if_pos hdirectory]
    rfl
  rcases mkdir_cases (store.runDirectory runId) fs with ⟨gs, hmkdir, hadds, hloc, hnode⟩ |
    ⟨e, he, hmkdir⟩
  · refine ⟨gs, hadds, ?_⟩
    by_cases hopening : fault = some .opening
    · refine Or.inl ⟨.osError .inputOutput, by simp [hopening], ?_⟩
      simp only [persistAttempt, EStateM.run_bind, run_validateComponent, if_pos hrun,
        if_pos hattempt, whenever, if_neg hdirectory, if_pos hopening, EStateM.run_pure,
        run_mapError, hmkdir]
      rfl
    · have hrecorded := run_persistAttempt_of_mkdir codec hrun hattempt hdirectory hopening
        hmkdir
      have hprepared : Prepared store runId gs := ⟨hloc, hnode⟩
      have hlocate := hprepared.locate_artifact hrun hattempt
      split_ifs at hlocate with hfits
      · exact Or.inr ⟨hprepared, hlocate, hrecorded⟩
      · refine Or.inl ⟨.osError .fileNameTooLong, by simp, ?_⟩
        exact hrecorded.trans (run_recorded_of_unlocated hlocate)
  · refine ⟨fs, Adds.refl _ fs, Or.inl ⟨.osError e, by simpa using fun _ _ => he, ?_⟩⟩
    simp only [persistAttempt, EStateM.run_bind, run_validateComponent, if_pos hrun,
      if_pos hattempt, whenever, if_neg hdirectory, EStateM.run_pure, run_mapError, hmkdir]

variable (codec) in
lemma run_recorded_of_vacant (fault : Option ℕ)
    (hloc : gs.locate (store.artifactPath runId attempt.attemptId) =
      .ok (store.artifactPlace runId attempt.attemptId))
    (hfree : gs.node (store.artifactPlace runId attempt.attemptId) = none) :
    ∃ hs, Adds (store.artifactPlace runId attempt.attemptId) gs hs ∧
      hs.node (store.artifactPlace runId attempt.attemptId) = some (.file
        ((encodeEvidence codec runId attempt).take
          (fault.getD (encodeEvidence codec runId attempt).length))) ∧
      (store.recorded codec fault runId attempt).run gs =
        if fault.isSome then .error (.osError .inputOutput) hs
        else .ok (evidenceReference codec (store.artifactPath runId attempt.attemptId)
          (encodeEvidence codec runId attempt)) hs := by
  refine ⟨_, adds_add _ hfree (locate_inside hloc hfree), node_add hfree _, ?_⟩
  simp only [recorded, EStateM.run_bind, run_recordEvidence_of_vacant hloc hfree]
  split_ifs
  · rfl
  · rfl

variable (codec) in
lemma run_recorded_of_file (fault : Option ℕ) {content : List UInt8}
    (hloc : gs.locate (store.artifactPath runId attempt.attemptId) =
      .ok (store.artifactPlace runId attempt.attemptId))
    (hnode : gs.node (store.artifactPlace runId attempt.attemptId) = some (.file content)) :
    (store.recorded codec fault runId attempt).run gs =
      if content = encodeEvidence codec runId attempt then
        .ok (evidenceReference codec (store.artifactPath runId attempt.attemptId)
          (encodeEvidence codec runId attempt)) gs
      else .error (.evidenceConflict (s!"Evidence already exists with different content: " ++
        (store.artifactPath runId attempt.attemptId).text)) gs := by
  simp only [recorded, EStateM.run_bind, run_recordEvidence_of_file hloc hnode]
  split_ifs
  · rfl
  · rfl

lemma run_recorded_of_directory {fault : Option ℕ}
    (hloc : gs.locate (store.artifactPath runId attempt.attemptId) =
      .ok (store.artifactPlace runId attempt.attemptId))
    (hnode : gs.node (store.artifactPlace runId attempt.attemptId) = some .directory) :
    (store.recorded codec fault runId attempt).run gs = .error (.osError .isADirectory) gs := by
  simp only [recorded, EStateM.run_bind, run_recordEvidence_of_directory hloc hnode]

lemma adds_recorded (fault : Option ℕ)
    (hlocate : gs.locate (store.artifactPath runId attempt.attemptId) =
      .ok (store.artifactPlace runId attempt.attemptId)) :
    Adds (store.artifactPlace runId attempt.attemptId) gs
      (final (store.recorded codec fault runId attempt) gs) := by
  cases hnode : gs.node (store.artifactPlace runId attempt.attemptId) with
  | none =>
    obtain ⟨hs, hadds, -, hrecorded⟩ := run_recorded_of_vacant codec fault hlocate hnode
    split_ifs at hrecorded
    · rwa [final_of_error hrecorded]
    · rwa [final_of_ok hrecorded]
  | some node =>
    cases node with
    | directory =>
      rw [final_of_error (run_recorded_of_directory hlocate hnode)]
      exact Adds.refl _ gs
    | file content =>
      have hrecorded := run_recorded_of_file codec fault hlocate hnode
      split_ifs at hrecorded
      · rw [final_of_ok hrecorded]
        exact Adds.refl _ gs
      · rw [final_of_error hrecorded]
        exact Adds.refl _ gs

variable (codec store) in
lemma final_persistAttempt (hrun : SafeComponent runId) (hattempt : SafeComponent attempt.attemptId)
    (fault : Option IoFault) (fs : FileSystem) :
    ∃ gs, Adds (store.directoryPlace runId) fs gs ∧
      Adds (store.artifactPlace runId attempt.attemptId) gs
        (final (store.persistAttempt codec fault runId attempt) fs) := by
  obtain ⟨gs, hadds, ⟨e, -, herror⟩ | ⟨-, hlocate, hrecorded⟩⟩ :=
    persistAttempt_cases codec store hrun hattempt fault fs
  · rw [final_of_error herror]
    exact ⟨gs, hadds, Adds.refl _ gs⟩
  · refine ⟨gs, hadds, ?_⟩
    rw [final_congr hrecorded]
    exact adds_recorded _ hlocate

variable (codec store) in
lemma grows_persistAttempt (fault : Option IoFault) (runId : String)
    (attempt : PointAttemptSnapshot) (fs : FileSystem) :
    Grows fs (final (store.persistAttempt codec fault runId attempt) fs) := by
  by_cases h : SafeComponent runId ∧ SafeComponent attempt.attemptId
  · obtain ⟨gs, hdirectory, hartifact⟩ := final_persistAttempt codec store
      h.1 h.2 fault fs
    exact hdirectory.grows.trans hartifact.grows
  · obtain ⟨message, herror⟩ := run_persistAttempt_of_unsafe codec store fault fs h
    rw [final_of_error herror]
    exact Grows.refl fs

end Persist

end LocalJsonEvidenceStore

end Inspection
