import AmrWarehouse.Inspection.WriteOnce
import AmrWarehouse.Inspection.Controller

/-! When a new store takes the evidence of the first attempt of a run. -/

namespace Inspection

open Library FileSystem LocalJsonEvidenceStore

structure Room (store : LocalJsonEvidenceStore) (runId attemptId : String) (fs : FileSystem) :
    Prop where
  located : fs.locate (store.runDirectory runId) = .ok (store.directoryPlace runId)
  directory : fs.node (store.directoryPlace runId) = none ∨
    fs.node (store.directoryPlace runId) = some .directory
  vacant : fs.node (store.artifactPlace runId attemptId) = none
  fits : (store.artifactPath runId attemptId).Fits

variable {codec : EvidenceCodec} {store : LocalJsonEvidenceStore} {runId attemptId : String}
  {attempt : PointAttemptSnapshot} {fs gs : FileSystem} {root : PosixPath}

lemma safeCharacter_of_digit {c : Char} (h : c.isDigit = true) : safeCharacter c = true := by
  simp [safeCharacter, Char.isAlphanum, h]

lemma toList_toString_digits (n : ℕ) : ∀ c ∈ (toString n).toList, c.isDigit = true := by
  intro c hc
  have hdigits : c ∈ Nat.toDigits 10 n := by simpa using hc
  exact Nat.isDigit_of_mem_toDigits (by decide) (by decide) hdigits

lemma safeComponent_attemptIdOf {pointId : String} (hrun : SafeComponent runId)
    (hpoint : SafeComponent pointId) (attemptNumber : ℕ) :
    SafeComponent (attemptIdOf runId pointId attemptNumber) := by
  have hlist : (attemptIdOf runId pointId attemptNumber).toList = runId.toList ++ [':'] ++
      pointId.toList ++ ":attempt-".toList ++ (toString attemptNumber).toList := by
    simp [attemptIdOf]
  refine ⟨fun hempty => ?_, fun c hc => ?_⟩
  · rw [hempty] at hlist
    simp at hlist
  · rw [hlist] at hc
    simp only [List.mem_append, List.mem_singleton] at hc
    rcases hc with (((hc | rfl) | hc) | hc) | hc
    · exact hrun.2 c hc
    · decide
    · exact hpoint.2 c hc
    · have hsafe : ∀ c ∈ ":attempt-".toList, safeCharacter c = true :=
        List.all_eq_true.mp (by decide)
      exact hsafe c hc
    · exact safeCharacter_of_digit (toList_toString_digits attemptNumber c hc)

lemma bounds_of_safeCharacter {c : Char} (h : safeCharacter c = true) :
    45 ≤ c.toNat ∧ c.toNat ≤ 122 := by
  have hmarks : ∀ c ∈ "_.:-".toList, 45 ≤ c.toNat ∧ c.toNat ≤ 122 := by simp
  rw [safeCharacter, Bool.or_eq_true, decide_eq_true_eq] at h
  rcases h with halnum | hmark
  · have hranges : (decide (c.val ≥ 'A'.val ∧ c.val ≤ 'Z'.val) ||
        decide (c.val ≥ 'a'.val) && decide (c.val ≤ 'z'.val) ||
        decide (c.val ≥ '0'.val) && decide (c.val ≤ '9'.val)) = true := halnum
    simp only [Bool.or_eq_true, Bool.and_eq_true, decide_eq_true_eq, ge_iff_le,
      UInt32.le_iff_toNat_le] at hranges
    simp at hranges
    omega
  · exact hmarks c hmark

lemma filled_of_safe {value : String} (h : SafeComponent value) : Filled value := by
  rw [filled_iff]
  cases hlist : value.toList with
  | nil => exact absurd (String.toList_inj.mp (by rw [hlist]; rfl)) h.1
  | cons c cs =>
    have hbounds := bounds_of_safeCharacter (h.2 c (by rw [hlist]; simp))
    refine ⟨c, by simp, ?_⟩
    simp only [isSpace, Bool.or_eq_false_iff, Bool.and_eq_false_iff, decide_eq_false_iff_not]
    omega

lemma directory_of_create (h : (create root).run fs = .ok store gs) :
    store.root = root.resolved ∧ gs.locate store.root = .ok store.root.parts ∧
      gs.node store.root.parts = some .directory := by
  have hends : Ends (create root) fs (fun store gs =>
      store.root = root.resolved ∧ gs.isDirectory store.root = true) (fun _ => True) := by
    rw [LocalJsonEvidenceStore.create, ends_bind]
    refine ends_self.mono (fun _ fs' _ => ?_) (fun _ _ => trivial)
    rw [ends_bind, ends_get, ends_bind]
    refine ends_whenever (fun _ => trivial) (fun hdirectory => ?_)
    rw [ends_pure]
    exact ⟨rfl, not_not.mp hdirectory⟩
  obtain ⟨hroot, hdirectory⟩ := hends.of_ok h
  rw [isDirectory] at hdirectory
  cases hloc : gs.locate store.root with
  | error e => simp [hloc] at hdirectory
  | ok place =>
    have hplace := locate_ok hloc
    rw [resolve_of_plain store.resolved] at hplace
    subst hplace
    exact ⟨hroot, rfl, by simpa [hloc] using hdirectory⟩

lemma room_of_create (h : (create root).run fs = .ok store gs) (hrun : SafeComponent runId)
    (hattempt : SafeComponent attemptId)
    (hdirectory : gs.node (store.directoryPlace runId) = none ∨
      gs.node (store.directoryPlace runId) = some .directory)
    (hvacant : gs.node (store.artifactPlace runId attemptId) = none)
    (hfits : (store.artifactPath runId attemptId).Fits) : Room store runId attemptId gs := by
  obtain ⟨-, hloc, hnode⟩ := directory_of_create h
  refine ⟨?_, hdirectory, hvacant, hfits⟩
  have hlocate : gs.locate (store.runDirectory runId) = _ :=
    locate_join hloc hnode (component_of_safe hrun)
  rw [directoryPlace, resolve_runDirectory hrun, hlocate, if_pos]
  exact hfits.of_join (component_artifactName hattempt)

lemma exists_run_persistAttempt (h : Room store runId attempt.attemptId fs)
    (hrun : SafeComponent runId) (hattempt : SafeComponent attempt.attemptId) : ∃ gs,
    (store.persistAttempt codec none runId attempt).run fs =
      .ok (evidenceReference codec (store.artifactPath runId attempt.attemptId)
        (encodeEvidence codec runId attempt)) gs := by
  obtain ⟨mid, hmkdir, hadds, hnode⟩ := exists_run_mkdir h.located h.directory
  have hne : store.artifactPlace runId attempt.attemptId ≠ store.directoryPlace runId := by
    rw [artifactPlace_eq hrun hattempt]
    simp
  have hfree : mid.node (store.artifactPlace runId attempt.attemptId) = none := by
    rw [hadds.others _ hne, h.vacant]
  have hprepared : Prepared store runId mid := ⟨hadds.grows.locate h.located, hnode⟩
  have hlocate := hprepared.locate_artifact hrun hattempt
  rw [if_pos h.fits] at hlocate
  obtain ⟨gs, -, -, hrecorded⟩ := run_recorded_of_vacant codec none hlocate hfree
  have hpersist : (store.persistAttempt codec none runId attempt).run fs =
      (store.recorded codec none runId attempt).run mid :=
    run_persistAttempt_of_mkdir codec hrun hattempt (by simp) (by simp) hmkdir
  exact ⟨gs, hpersist.trans hrecorded⟩

end Inspection
