import AmrWarehouse.Inspection.Confinement

/-! Evidence is written once: what later calls leave of it, and what a failed write leaves. -/

namespace Inspection

open Library FileSystem LocalJsonEvidenceStore

structure PersistCall where
  runId : String
  attempt : PointAttemptSnapshot
  fault : Option IoFault := none

variable {codec : EvidenceCodec} {store : LocalJsonEvidenceStore} {runId : String}
  {attempt : PointAttemptSnapshot} {fs gs : FileSystem}

def PersistCall.after (codec : EvidenceCodec) (store : LocalJsonEvidenceStore) (call : PersistCall)
    (fs : FileSystem) : FileSystem :=
  final (store.persistAttempt codec call.fault call.runId call.attempt) fs

def afterCalls (codec : EvidenceCodec) (store : LocalJsonEvidenceStore) (calls : List PersistCall)
    (fs : FileSystem) : FileSystem :=
  calls.foldl (fun fs call => call.after codec store fs) fs

variable (codec store) in
lemma grows_afterCalls (calls : List PersistCall) (fs : FileSystem) :
    Grows fs (afterCalls codec store calls fs) := by
  induction calls generalizing fs with
  | nil => exact Grows.refl fs
  | cons call calls ih =>
    exact (grows_persistAttempt codec store call.fault call.runId call.attempt fs).trans (ih _)

structure Stored (store : LocalJsonEvidenceStore) (runId attemptId : String)
    (content : List UInt8) (fs : FileSystem) : Prop where
  prepared : Prepared store runId fs
  located : fs.locate (store.artifactPath runId attemptId) =
    .ok (store.artifactPlace runId attemptId)
  file : fs.node (store.artifactPlace runId attemptId) = some (.file content)

lemma Stored.grows {attemptId : String} {content : List UInt8}
    (h : Stored store runId attemptId content fs) (hgrows : Grows fs gs) :
    Stored store runId attemptId content gs :=
  ⟨h.prepared.grows hgrows, hgrows.locate h.located, hgrows _ _ h.file⟩

lemma run_readBytes_of_stored {attemptId : String} {content : List UInt8}
    (h : Stored store runId attemptId content fs) :
    (readBytes (store.artifactPath runId attemptId)).run fs = .ok content fs :=
  run_readBytes_of_file h.located h.file

lemma safe_of_returns {fault : Option IoFault} {reference : EvidenceReference}
    (h : (store.persistAttempt codec fault runId attempt).run fs = .ok reference gs) :
    SafeComponent runId ∧ SafeComponent attempt.attemptId := by
  by_contra hunsafe
  obtain ⟨message, herror⟩ := run_persistAttempt_of_unsafe codec store fault fs hunsafe
  rw [h] at herror
  cases herror

lemma stored_of_returns {fault : Option IoFault} {reference : EvidenceReference}
    (h : (store.persistAttempt codec fault runId attempt).run fs = .ok reference gs) :
    Stored store runId attempt.attemptId (encodeEvidence codec runId attempt) gs ∧
      reference = evidenceReference codec (store.artifactPath runId attempt.attemptId)
        (encodeEvidence codec runId attempt) := by
  obtain ⟨hrun, hattempt⟩ := safe_of_returns h
  obtain ⟨mid, -, ⟨e, -, herror⟩ | ⟨hprepared, hlocate, hrecorded⟩⟩ :=
    persistAttempt_cases codec store hrun hattempt fault fs
  · rw [h] at herror
    cases herror
  · rw [h] at hrecorded
    cases hnode : mid.node (store.artifactPlace runId attempt.attemptId) with
    | none =>
      obtain ⟨hs, hadds, hfile, hvacant⟩ := run_recorded_of_vacant codec
        (fault.bind IoFault.reached?) hlocate hnode
      rw [← hrecorded] at hvacant
      split_ifs at hvacant with hfault
      rw [Option.not_isSome_iff_eq_none] at hfault
      rw [hfault, Option.getD_none, List.take_length] at hfile
      cases hvacant
      exact ⟨⟨hprepared.grows hadds.grows, hadds.grows.locate hlocate, hfile⟩, rfl⟩
    | some node =>
      cases node with
      | directory =>
        rw [run_recorded_of_directory hlocate hnode] at hrecorded
        cases hrecorded
      | file content =>
        rw [run_recorded_of_file codec _ hlocate hnode] at hrecorded
        split_ifs at hrecorded with hcontent
        cases hrecorded
        exact ⟨⟨hprepared, hlocate, hcontent ▸ hnode⟩, rfl⟩

lemma run_persistAttempt_of_stored {content : List UInt8}
    (h : Stored store runId attempt.attemptId content fs) (hrun : SafeComponent runId)
    (hattempt : SafeComponent attempt.attemptId) :
    (store.persistAttempt codec none runId attempt).run fs =
      if content = encodeEvidence codec runId attempt then
        .ok (evidenceReference codec (store.artifactPath runId attempt.attemptId)
          (encodeEvidence codec runId attempt)) fs
      else .error (.evidenceConflict (s!"Evidence already exists with different content: " ++
        (store.artifactPath runId attempt.attemptId).text)) fs := by
  rw [run_persistAttempt_of_prepared h.prepared hrun hattempt,
    run_recorded_of_file codec none h.located h.file]

lemma encodeEvidence_injective {other : PointAttemptSnapshot}
    (hinjective : ∀ other : PointAttemptSnapshot,
      codec.dumps { runId := runId, attempt := other } =
        codec.dumps { runId := runId, attempt := attempt } → other = attempt)
    (h : encodeEvidence codec runId other = encodeEvidence codec runId attempt) :
    other = attempt := by
  apply hinjective
  have hbytes := ByteArray.ext (Array.toList_inj.mp h)
  rw [String.toUTF8_eq_toByteArray, String.toUTF8_eq_toByteArray, String.toByteArray_inj] at hbytes
  exact (String.append_left_inj "\n").mp hbytes

/-- Whatever else is persisted, a file that a reference names keeps its bytes, and the attempt can
only be persisted as it was. -/
theorem evidence_write_once (codec : EvidenceCodec) (store : LocalJsonEvidenceStore)
    (earlier : List PersistCall) (fs₀ fs₁ : FileSystem) (runId : String)
    (attempt : PointAttemptSnapshot) (reference : EvidenceReference)
    (hinjective : ∀ other : PointAttemptSnapshot,
      codec.dumps { runId := runId, attempt := other } =
        codec.dumps { runId := runId, attempt := attempt } → other = attempt)
    (hreturned : (store.persistAttempt codec none runId attempt).run
      (afterCalls codec store earlier fs₀) = .ok reference fs₁) (later : List PersistCall) :
    reference.uri = (store.artifactPath runId attempt.attemptId).asUri ∧
      (∃ content,
        (readBytes (store.artifactPath runId attempt.attemptId)).run fs₁ = .ok content fs₁ ∧
        (readBytes (store.artifactPath runId attempt.attemptId)).run
          (afterCalls codec store later fs₁) = .ok content (afterCalls codec store later fs₁) ∧
        codec.hexdigest content = reference.sha256) ∧
      (store.persistAttempt codec none runId attempt).run (afterCalls codec store later fs₁) =
        .ok reference (afterCalls codec store later fs₁) ∧
      ∀ other : PointAttemptSnapshot, other.attemptId = attempt.attemptId → other ≠ attempt →
        ∃ message,
          (store.persistAttempt codec none runId other).run (afterCalls codec store later fs₁) =
            .error (.evidenceConflict message) (afterCalls codec store later fs₁) := by
  obtain ⟨hrun, hattempt⟩ := safe_of_returns hreturned
  obtain ⟨hstored, rfl⟩ := stored_of_returns hreturned
  have hlater := hstored.grows (grows_afterCalls codec store later fs₁)
  refine ⟨rfl, ⟨encodeEvidence codec runId attempt, ?_, ?_, rfl⟩, ?_, ?_⟩
  · exact run_readBytes_of_stored hstored
  · exact run_readBytes_of_stored hlater
  · rw [run_persistAttempt_of_stored hlater hrun hattempt, if_pos rfl]
  · intro other hid hother
    have hcontent : encodeEvidence codec runId attempt ≠ encodeEvidence codec runId other :=
      fun heq => hother (encodeEvidence_injective hinjective heq.symm)
    rw [← hid] at hlater
    rw [run_persistAttempt_of_stored hlater hrun (hid ▸ hattempt), if_neg hcontent]
    exact ⟨_, rfl⟩

def navigationCodec : EvidenceCodec where
  dumps payload :=
    if payload.attempt = navigationAttempt "run-1" then
      "\x7b\"attempt\":\x7b\"arrival_accepted\":false," ++
        "\"attempt_id\":\"run-1:point-1:attempt-1\",\"attempt_number\":1," ++
        "\"evaluation_result\":null,\"evidence_reference\":null," ++
        "\"execution_phase\":\"navigation_failed\",\"navigation_succeeded\":false," ++
        "\"observation\":null,\"point_id\":\"point-1\",\"quality_result\":null," ++
        "\"reason\":\"planner_failed\",\"stabilization_succeeded\":false\x7d," ++
        "\"run_id\":\"run-1\",\"schema_version\":\"inspection-evidence-v1\"\x7d"
    else ""
  hexdigest := evidenceCodec.hexdigest
  hexdigest_length := evidenceCodec.hexdigest_length
  hexdigest_digits := evidenceCodec.hexdigest_digits

lemma navigationCodec_injective (other : PointAttemptSnapshot)
    (h : navigationCodec.dumps { runId := "run-1", attempt := other } =
      navigationCodec.dumps { runId := "run-1", attempt := navigationAttempt "run-1" }) :
    other = navigationAttempt "run-1" := by
  by_contra hother
  simp only [navigationCodec, if_neg hother, if_true] at h
  simp at h

def otherRunCall : PersistCall := { runId := "run-2", attempt := navigationAttempt "run-2" }

def conflictingCall : PersistCall where
  runId := "run-1"
  attempt := { navigationAttempt "run-1" with reason := none }

theorem evidence_write_once_run_1 :
    ∃ reference fs₁,
      (evidenceRoot.persistAttempt navigationCodec none "run-1" (navigationAttempt "run-1")).run
        (afterCalls navigationCodec evidenceRoot [] evidenceTree) = .ok reference fs₁ ∧
      (evidenceRoot.persistAttempt navigationCodec none "run-1" (navigationAttempt "run-1")).run
        (afterCalls navigationCodec evidenceRoot [conflictingCall] fs₁) =
          .ok reference (afterCalls navigationCodec evidenceRoot [conflictingCall] fs₁) := by
  have hreturns : raises (evidenceRoot.persistAttempt navigationCodec none "run-1"
      (navigationAttempt "run-1")) (afterCalls navigationCodec evidenceRoot [] evidenceTree) =
      false := by
    decide +kernel
  obtain ⟨reference, fs₁, hrun⟩ := exists_of_returns hreturns
  exact ⟨reference, fs₁, hrun, (evidence_write_once navigationCodec evidenceRoot []
    evidenceTree fs₁ "run-1" (navigationAttempt "run-1") reference navigationCodec_injective hrun
    [conflictingCall]).2.2.1⟩

lemma stored_of_failed {reached : ℕ} (hrun : SafeComponent runId)
    (hattempt : SafeComponent attempt.attemptId)
    (h : (store.persistAttempt codec (some (.writing reached)) runId attempt).run fs =
      .error (.osError .inputOutput) gs) :
    Stored store runId attempt.attemptId ((encodeEvidence codec runId attempt).take reached)
      gs := by
  obtain ⟨mid, -, ⟨e, he, herror⟩ | ⟨hprepared, hlocate, hrecorded⟩⟩ :=
    persistAttempt_cases codec store hrun hattempt (some (.writing reached)) fs
  · rw [h] at herror
    cases herror
    exact absurd rfl (he reached rfl)
  · rw [h] at hrecorded
    cases hnode : mid.node (store.artifactPlace runId attempt.attemptId) with
    | none =>
      obtain ⟨hs, hadds, hfile, hvacant⟩ := run_recorded_of_vacant codec
        (some reached) hlocate hnode
      rw [if_pos (by rfl)] at hvacant
      rw [show (some (IoFault.writing reached)).bind IoFault.reached? = some reached from rfl,
        hvacant] at hrecorded
      cases hrecorded
      exact ⟨hprepared.grows hadds.grows, hadds.grows.locate hlocate, hfile⟩
    | some node =>
      cases node with
      | directory =>
        rw [run_recorded_of_directory hlocate hnode] at hrecorded
        cases hrecorded
      | file content =>
        rw [run_recorded_of_file codec _ hlocate hnode] at hrecorded
        split_ifs at hrecorded
        cases hrecorded

/-- After a failed write a retry succeeds just when nothing was missing but the sync. -/
theorem retry_succeeds_iff (codec : EvidenceCodec) (store : LocalJsonEvidenceStore)
    (fs₀ fs₁ : FileSystem) (runId : String) (attempt : PointAttemptSnapshot) (reached : ℕ)
    (hfailed : (store.persistAttempt codec (some (.writing reached)) runId attempt).run fs₀ =
      .error (.osError .inputOutput) fs₁) (later : List PersistCall) :
    (∃ reference fs₂,
      (store.persistAttempt codec none runId attempt).run (afterCalls codec store later fs₁) =
        .ok reference fs₂ ∧
      reference.uri = (store.artifactPath runId attempt.attemptId).asUri ∧
      (readBytes (store.artifactPath runId attempt.attemptId)).run fs₂ =
        .ok (encodeEvidence codec runId attempt) fs₂) ↔
    (encodeEvidence codec runId attempt).length ≤ reached := by
  have hsafe : SafeComponent runId ∧ SafeComponent attempt.attemptId := by
    by_contra hunsafe
    obtain ⟨message, herror⟩ := run_persistAttempt_of_unsafe codec store
      (some (.writing reached)) fs₀ hunsafe
    rw [hfailed] at herror
    cases herror
  obtain ⟨hrun, hattempt⟩ := hsafe
  have hlater := (stored_of_failed hrun hattempt hfailed).grows
    (grows_afterCalls codec store later fs₁)
  rw [run_persistAttempt_of_stored hlater hrun hattempt]
  constructor
  · rintro ⟨reference, fs₂, hreturned, -⟩
    split_ifs at hreturned with hcontent
    exact (List.take_eq_self_iff _).mp hcontent
  · intro hreached
    rw [if_pos (List.take_of_length_le hreached)]
    refine ⟨_, _, rfl, rfl, ?_⟩
    rw [List.take_of_length_le hreached] at hlater
    exact run_readBytes_of_stored hlater

theorem retry_succeeds_after_sync :
    ∃ reference fs₂,
      (evidenceRoot.persistAttempt navigationCodec none "run-1" (navigationAttempt "run-1")).run
        (afterCalls navigationCodec evidenceRoot [otherRunCall] (final
          (evidenceRoot.persistAttempt navigationCodec (some (.writing 1000)) "run-1"
            (navigationAttempt "run-1")) evidenceTree)) = .ok reference fs₂ ∧
      reference.uri =
        (evidenceRoot.artifactPath "run-1" (navigationAttempt "run-1").attemptId).asUri ∧
      (readBytes (evidenceRoot.artifactPath "run-1" (navigationAttempt "run-1").attemptId)).run
          fs₂ = .ok (encodeEvidence navigationCodec "run-1" (navigationAttempt "run-1")) fs₂ :=
  (retry_succeeds_iff navigationCodec evidenceRoot evidenceTree _ "run-1"
    (navigationAttempt "run-1") 1000 (run_of_raised (by decide +kernel)) [otherRunCall]).mpr
    (by decide +kernel)

/-- The process is told of the failure, tries again, and is told of a conflict with itself. -/
theorem retry_conflicts :
    raised (evidenceRoot.persistAttempt navigationCodec (some (.writing 0)) "run-1"
        (navigationAttempt "run-1")) evidenceTree = some (.osError .inputOutput) ∧
      raised (evidenceRoot.persistAttempt navigationCodec none "run-1" (navigationAttempt "run-1"))
        (final (evidenceRoot.persistAttempt navigationCodec (some (.writing 0)) "run-1"
          (navigationAttempt "run-1")) evidenceTree) =
        some (.evidenceConflict ("Evidence already exists with different content: " ++
          "/srv/evidence/run-1/run-1:point-1:attempt-1.json")) := by
  refine ⟨by decide +kernel, by decide +kernel⟩

end Inspection
