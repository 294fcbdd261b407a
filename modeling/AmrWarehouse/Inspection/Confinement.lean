import AmrWarehouse.Inspection.Evidence

/-! Where in the tree the store of evidence writes. -/

namespace Inspection

open Library FileSystem LocalJsonEvidenceStore

/-- The call keeps to a directory of its own beneath the root, and to a file that is its alone. -/
structure Confined (codec : EvidenceCodec) (store : LocalJsonEvidenceStore) (runId : String)
    (attempt : PointAttemptSnapshot) : Prop where
  inside : ∀ fault fs place,
    (final (store.persistAttempt codec fault runId attempt) fs).node place ≠ fs.node place →
      Beneath store.root.parts place
  directory : resolve (store.runDirectory runId).parts = store.root.parts ++ [runId]
  artifact : resolve (store.artifactPath runId attempt.attemptId).parts =
    store.root.parts ++ [runId, s!"{attempt.attemptId}.json"]
  alone : ∀ otherRun otherAttempt, SafeComponent otherRun → SafeComponent otherAttempt →
    resolve (store.artifactPath otherRun otherAttempt).parts =
      resolve (store.artifactPath runId attempt.attemptId).parts →
    otherRun = runId ∧ otherAttempt = attempt.attemptId

section Confined

variable {codec : EvidenceCodec} {store : LocalJsonEvidenceStore} {runId : String}
  {attempt : PointAttemptSnapshot}

lemma changed_persistAttempt (hrun : SafeComponent runId)
    (hattempt : SafeComponent attempt.attemptId) {fault : Option IoFault} {fs : FileSystem}
    {place : List String}
    (h : (final (store.persistAttempt codec fault runId attempt) fs).node place ≠ fs.node place) :
    place = store.directoryPlace runId ∨ place = store.artifactPlace runId attempt.attemptId := by
  obtain ⟨gs, hdirectory, hartifact⟩ := final_persistAttempt codec store
    hrun hattempt fault fs
  by_contra hplace
  rw [not_or] at hplace
  exact h ((hartifact.others place hplace.2).trans (hdirectory.others place hplace.1))

lemma eq_of_enter {root : List String} {name other : String}
    (h : enter root other = root ++ [name]) : other = name := by
  rw [enter] at h
  split_ifs at h with hdot hdots
  · simp at h
  · have hlength := congrArg List.length h
    rw [List.length_dropLast, List.length_append, List.length_singleton] at hlength
    omega
  · simpa using h

lemma alone_of_plain (hrun : SafeComponent runId) (hplain : Plain runId)
    (hattempt : SafeComponent attempt.attemptId) {otherRun otherAttempt : String}
    (hotherRun : SafeComponent otherRun) (hotherAttempt : SafeComponent otherAttempt)
    (h : resolve (store.artifactPath otherRun otherAttempt).parts =
      resolve (store.artifactPath runId attempt.attemptId).parts) :
    otherRun = runId ∧ otherAttempt = attempt.attemptId := by
  rw [resolve_artifactPath hotherRun hotherAttempt, resolve_artifactPath hrun hattempt,
    enter_of_plain hplain] at h
  obtain ⟨hdirectory, hname⟩ := List.append_inj' h rfl
  exact ⟨eq_of_enter hdirectory, artifactName_injective (List.singleton_inj.mp hname)⟩

lemma beneath_append {root rest : List String} (h : rest ≠ []) : Beneath root (root ++ rest) :=
  ⟨rest, h, rfl⟩

/-- The characters let through keep a call within the root, but for the two names that are not
names. -/
theorem confined_iff (codec : EvidenceCodec) (store : LocalJsonEvidenceStore) (runId : String)
    (attempt : PointAttemptSnapshot) (hrun : SafeComponent runId)
    (hattempt : SafeComponent attempt.attemptId) :
    Confined codec store runId attempt ↔ runId ≠ "." ∧ runId ≠ ".." := by
  have hdirectory : store.directoryPlace runId = enter store.root.parts runId :=
    resolve_runDirectory hrun
  constructor
  · intro h
    have hown := h.directory
    rw [resolve_runDirectory hrun, enter] at hown
    split_ifs at hown with hdot hdots
    · simp at hown
    · have hlength := congrArg List.length hown
      rw [List.length_dropLast, List.length_append, List.length_singleton] at hlength
      omega
    · exact ⟨hdot, hdots⟩
  · intro hplain
    rw [enter_of_plain hplain] at hdirectory
    refine ⟨?_, hdirectory, ?_, fun _ _ => alone_of_plain hrun hplain hattempt⟩
    · intro fault fs place hchanged
      rcases changed_persistAttempt hrun hattempt hchanged with rfl | rfl
      · rw [hdirectory]
        exact beneath_append (by simp)
      · rw [artifactPlace_eq hrun hattempt, hdirectory, List.append_assoc]
        exact beneath_append (by simp)
    · rw [resolve_artifactPath hrun hattempt, enter_of_plain hplain, List.append_assoc]
      rfl

end Confined

def evidenceRoot : LocalJsonEvidenceStore where
  root := ⟨["srv", "evidence"], by decide⟩
  resolved := by decide

def evidenceTree : FileSystem := final (create evidenceRoot.root) FileSystem.empty

def navigationAttempt (runId : String) : PointAttemptSnapshot where
  attemptId := s!"{runId}:point-1:attempt-1"
  attemptNumber := 1
  pointId := "point-1"
  executionPhase := "navigation_failed"
  navigationSucceeded := false
  arrivalAccepted := false
  stabilizationSucceeded := false
  observation := none
  qualityResult := none
  evaluationResult := none
  evidenceReference := none
  reason := some "planner_failed"

def evidenceCodec : EvidenceCodec where
  dumps payload := s!"{payload.schemaVersion}:{payload.runId}:{payload.attempt.attemptId}"
  hexdigest _ := String.ofList (List.replicate 64 '0')
  hexdigest_length _ := by decide
  hexdigest_digits _ := List.all_eq_true.mp (by decide)

theorem confined_run_1 : Confined evidenceCodec evidenceRoot "run-1" (navigationAttempt "run-1") :=
  (confined_iff evidenceCodec evidenceRoot "run-1" (navigationAttempt "run-1") (by decide)
    (by decide)).mpr (by decide)

/-- The run `..` makes its file beside the root. -/
theorem run_above_root :
    SafeComponent ".." ∧ SafeComponent (navigationAttempt "..").attemptId ∧
      ¬ Confined evidenceCodec evidenceRoot ".." (navigationAttempt "..") := by
  refine ⟨by decide, by decide, fun h => ?_⟩
  obtain ⟨rest, -, hrest⟩ := h.inside none evidenceTree ["srv", "..:point-1:attempt-1.json"]
    (by decide +kernel)
  rw [evidenceRoot, List.cons_append, List.cons_append] at hrest
  simp at hrest

end Inspection
