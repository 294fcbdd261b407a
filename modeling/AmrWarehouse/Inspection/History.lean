import Mathlib
import AmrWarehouse.Inspection.PointSuccess
import AmrWarehouse.Inspection.Report

/-! The attempts of a run are numbered, failed and final but for the last, and their report never
calls a system fault a finding. -/

namespace Inspection

open Library InspectionRunController

lemma attemptIdOf_injective (runId pointId : String) :
    Function.Injective (attemptIdOf runId pointId) := by
  intro m n h
  exact Nat.repr_injective ((String.append_right_inj _).mp h)

/-- Completed attempts are numbered from one, failed, and without an evaluation. -/
structure Historical (c : InspectionRunController) : Prop where
  numbered : ∀ (n : ℕ) a, c.completedAttempts[n]? = some a → a.attemptNumber = n + 1 ∧
    a.attemptId = attemptIdOf c.runId c.task.point.pointId (n + 1)
  failed : ∀ a ∈ c.completedAttempts, (∃ phase ∈ retryablePhases, a.executionPhase = phase.value) ∧
    a.evaluationResult = none
  number : c.attempt.attemptNumber = c.completedAttempts.length + 1
  attemptId : c.attempt.attemptId =
    attemptIdOf c.runId c.task.point.pointId (c.completedAttempts.length + 1)

variable {c c' : InspectionRunController} {checked : MockObservation → Prop} {op : InspectionOp}

lemma Gathered.not_evaluated (h : Gathered c checked) (hp : c.phase ∈ retryablePhases) :
    c.attempt.evaluationResult = none := by
  cases he : c.attempt.evaluationResult with
  | none => rfl
  | some result =>
    obtain ⟨-, hphase⟩ := h.evaluated result he
    rw [retryablePhases, phase] at hp
    simp only [List.mem_cons, List.not_mem_nil, or_false] at hp
    rcases hp with hp | hp | hp | hp <;> simp [hp, progress] at hphase

lemma InspectionRunController.Advance.history (h : Advance c op c') :
    (c'.completedAttempts = c.completedAttempts ∧
      c'.attempt.attemptNumber = c.attempt.attemptNumber ∧
      c'.attempt.attemptId = c.attempt.attemptId) ∨
    (c.phase ∈ retryablePhases ∧
      c'.completedAttempts = c.completedAttempts ++ [c.attempt.snapshot] ∧
      c'.attempt = newAttempt c.runId c.task (c.attempt.attemptNumber + 1)) := by
  cases h with
  | retried hp => exact Or.inr ⟨hp, rfl, rfl⟩
  | _ => exact Or.inl ⟨rfl, rfl, rfl⟩

lemma Historical.advance (h : Historical c) (hg : Gathered c checked) (hstep : Advance c op c') :
    Historical c' := by
  obtain ⟨hrun, -, htask⟩ := hstep.identity
  rcases hstep.history with ⟨hsame, hnumber, hid⟩ | ⟨hp, hmore, hnew⟩
  · constructor
    · rw [hsame, hrun, htask]
      exact h.numbered
    · rw [hsame]
      exact h.failed
    · rw [hnumber, hsame]
      exact h.number
    · rw [hid, hsame, hrun, htask]
      exact h.attemptId
  · constructor
    · intro n a ha
      rw [hrun, htask]
      rw [hmore] at ha
      rcases lt_trichotomy n c.completedAttempts.length with hlt | heq | hgt
      · rw [List.getElem?_append_left hlt] at ha
        exact h.numbered n a ha
      · subst heq
        rw [List.getElem?_concat_length, Option.some.injEq] at ha
        subst ha
        exact ⟨h.number, h.attemptId⟩
      · rw [List.getElem?_eq_none (by simpa using hgt)] at ha
        simp at ha
    · intro a ha
      rw [hmore] at ha
      rcases List.mem_append.mp ha with hold | hlast
      · exact h.failed a hold
      · rw [List.mem_singleton] at hlast
        subst hlast
        exact ⟨⟨c.phase, hp, rfl⟩, hg.not_evaluated hp⟩
    · rw [hnew, hmore]
      simp [newAttempt, h.number]
    · rw [hnew, hmore, hrun, htask]
      simp [newAttempt, h.number]

lemma historical_init {runId robotId : String} {task : InspectionTask}
    (h : init runId robotId task = .ok c) : Historical c := by
  rw [init] at h
  split_ifs at h
  obtain rfl := Except.ok.inj h
  exact ⟨by simp, by simp, rfl, rfl⟩

lemma historical_run {start : InspectionRunController} {runId robotId : String}
    {task : InspectionTask} (hstart : init runId robotId task = .ok start)
    (ops : List InspectionOp) : Historical (runAll InspectionOp.step start ops) := by
  refine runAll_invariant (fun _ c => Historical c) (historical_init hstart) ?_ ops
  intro past op h
  rcases step_cases (runAll InspectionOp.step start past) op with hsame | hstep
  · rwa [hsame]
  · exact h.advance (gathered_run hstart past) hstep

lemma completed_prefix (c : InspectionRunController) (ops : List InspectionOp) :
    c.completedAttempts <+: (runAll InspectionOp.step c ops).completedAttempts := by
  induction ops generalizing c with
  | nil => exact List.prefix_rfl
  | cons op ops ih =>
    refine List.IsPrefix.trans ?_ (ih (op.step c))
    rcases step_cases c op with hsame | hstep
    · rw [hsame]
    · rcases hstep.history with ⟨hcompleted, -⟩ | ⟨-, hcompleted, -⟩
      · rw [hcompleted]
      · exact ⟨_, hcompleted.symm⟩

section Snapshot

lemma getElem?_attempts {n : ℕ} {a : PointAttemptSnapshot}
    (ha : c.snapshot.attempts[n]? = some a) :
    c.completedAttempts[n]? = some a ∨
      (n = c.completedAttempts.length ∧ a = c.attempt.snapshot) := by
  rw [snapshot] at ha
  dsimp only at ha
  rcases lt_trichotomy n c.completedAttempts.length with hlt | heq | hgt
  · rw [List.getElem?_append_left hlt] at ha
    exact Or.inl ha
  · subst heq
    rw [List.getElem?_concat_length, Option.some.injEq] at ha
    exact Or.inr ⟨rfl, ha.symm⟩
  · rw [List.getElem?_eq_none (by simpa using hgt)] at ha
    simp at ha

lemma mem_attempts {a : PointAttemptSnapshot} (ha : a ∈ c.snapshot.attempts) :
    a ∈ c.completedAttempts ∨ a = c.attempt.snapshot := by
  rw [snapshot] at ha
  simpa using ha

lemma Historical.snapshot_numbered (h : Historical c) {n : ℕ} {a : PointAttemptSnapshot}
    (ha : c.snapshot.attempts[n]? = some a) : a.attemptNumber = n + 1 ∧
      a.attemptId = attemptIdOf c.runId c.task.point.pointId (n + 1) := by
  rcases getElem?_attempts ha with hold | ⟨rfl, rfl⟩
  · exact h.numbered n a hold
  · exact ⟨h.number, h.attemptId⟩

lemma Historical.nodup (h : Historical c) :
    (c.snapshot.attempts.map PointAttemptSnapshot.attemptId).Nodup := by
  rw [List.nodup_iff_injective_getElem]
  rintro ⟨m, hm⟩ ⟨n, hn⟩ hmn
  rw [List.length_map] at hm hn
  simp only [List.getElem_map] at hmn
  rw [(h.snapshot_numbered (List.getElem?_eq_getElem hm)).2,
    (h.snapshot_numbered (List.getElem?_eq_getElem hn)).2] at hmn
  have hsucc := attemptIdOf_injective _ _ hmn
  exact Fin.ext (Nat.succ_injective hsucc)

lemma systemFault_isSome (a : PointAttemptSnapshot) :
    (attemptReport a).systemFault.isSome = true ↔ a.executionPhase ∈ failedPhases := by
  rw [attemptReport]
  split_ifs with h <;> simp [h]

lemma Historical.no_finding (h : Historical c) (hg : Gathered c checked)
    {a : PointAttemptSnapshot} (ha : a ∈ c.snapshot.attempts)
    (hfault : (attemptReport a).systemFault.isSome = true) : (attemptReport a).finding = none := by
  rw [systemFault_isSome] at hfault
  have hnone : a.evaluationResult = none := by
    rcases mem_attempts ha with hold | rfl
    · exact (h.failed a hold).2
    · exact hg.not_evaluated ((value_mem_failedPhases c.attempt.phase).mp hfault)
  rw [attemptReport, hnone]
  rfl

lemma mem_dropLast_attempts {a : PointAttemptSnapshot} (ha : a ∈ c.snapshot.attempts.dropLast) :
    a ∈ c.completedAttempts := by
  rwa [snapshot, List.dropLast_concat] at ha

end Snapshot

/-- What a report says of one attempt. Attempts in the phases a retry starts from have a fault. -/
structure Tells (attempt : PointAttemptSnapshot) (report : AttemptReport) : Prop where
  attemptId_eq : report.attemptId = attempt.attemptId
  attemptNumber_eq : report.attemptNumber = attempt.attemptNumber
  executionPhase_eq : report.executionPhase = attempt.executionPhase
  observation_eq : report.observation = attempt.observation
  quality_eq : report.quality = attempt.qualityResult
  evaluation_eq : report.evaluation = attempt.evaluationResult
  finding_eq : report.finding = attempt.evaluationResult.map EvaluationResult.finding
  evidence_eq : report.evidence = attempt.evidenceReference
  faulted_iff : report.systemFault.isSome = true ↔
    ∃ phase ∈ retryablePhases, attempt.executionPhase = phase.value

structure KeepsFaultsApart (run : InspectionRunSnapshot) (report : InspectionReport) : Prop where
  attempts_eq : report.attempts = run.attempts.map attemptReport
  told : List.Forall₂ Tells run.attempts report.attempts
  exclusive : ∀ a ∈ report.attempts, ¬ (a.systemFault.isSome = true ∧ a.finding.isSome = true)
  earlier : ∀ a ∈ report.attempts.dropLast, a.systemFault.isSome = true
  completion : report.completion = .failed ↔
    ∃ a, report.attempts.getLast? = some a ∧ a.systemFault.isSome = true
  retryCount : report.retryCount + 1 = run.attempts.length

lemma mem_failedPhases_iff (phase : String) :
    phase ∈ failedPhases ↔ ∃ failed ∈ retryablePhases, phase = failed.value := by
  simp only [failedPhases, retryablePhases, List.mem_cons, List.not_mem_nil, or_false,
    exists_eq_or_imp, exists_eq_left]
  rfl

lemma tells_attemptReport (attempt : PointAttemptSnapshot) :
    Tells attempt (attemptReport attempt) where
  attemptId_eq := rfl
  attemptNumber_eq := rfl
  executionPhase_eq := rfl
  observation_eq := rfl
  quality_eq := rfl
  evaluation_eq := rfl
  finding_eq := rfl
  evidence_eq := rfl
  faulted_iff := (systemFault_isSome attempt).trans (mem_failedPhases_iff _)

lemma Historical.report (h : Historical c) (hg : Gathered c checked) {task : InspectionTask}
    {generatedAtMs : ℤ} {report : InspectionReport}
    (hreport : buildInspectionReport task c.snapshot generatedAtMs = .ok report) :
    KeepsFaultsApart c.snapshot report := by
  rw [buildInspectionReport] at hreport
  split_ifs at hreport
  obtain rfl := Except.ok.inj hreport
  refine ⟨rfl, ?_, ?_, ?_, ?_, ?_⟩
  · rw [List.forall₂_map_right_iff, List.forall₂_same]
    exact fun attempt _ => tells_attemptReport attempt
  · rintro _ hmem ⟨hfault, hfinding⟩
    obtain ⟨a, ha, rfl⟩ := List.mem_map.mp hmem
    rw [h.no_finding hg ha hfault] at hfinding
    simp at hfinding
  · intro _ hmem
    dsimp only at hmem
    rw [← List.map_dropLast] at hmem
    obtain ⟨a, ha, rfl⟩ := List.mem_map.mp hmem
    obtain ⟨⟨phase, hphase, hvalue⟩, -⟩ := h.failed a (mem_dropLast_attempts ha)
    rw [systemFault_isSome, hvalue, value_mem_failedPhases]
    exact hphase
  · have hlast : (c.snapshot.attempts.map attemptReport).getLast? =
        some (attemptReport c.attempt.snapshot) := by
      rw [List.getLast?_map, snapshot, List.getLast?_concat]
      rfl
    have hphase : c.snapshot.executionPhase = c.phase.value := rfl
    rw [hlast, hphase, completionOf_value, ← value_mem_failedPhases]
    simp only [Option.some.injEq, exists_eq_left', systemFault_isSome]
    rfl
  · simp [snapshot]

lemma retryPoint_raises (c : InspectionRunController) :
    raises retryPoint c = decide (c.phase ∉ retryablePhases) := by
  by_cases h : c.phase ∈ retryablePhases <;> simp [raises, retryPoint, h]

lemma retryPoint_refused (h : c.phase ∉ retryablePhases) : InspectionOp.retryPoint.step c = c := by
  rcases step_cases c .retryPoint with hsame | hstep
  · exact hsame
  · generalize InspectionOp.retryPoint.step c = c' at hstep
    cases hstep with
    | retried hp => exact (h hp).elim

lemma report_of_own_task (c : InspectionRunController) (generatedAtMs : ℤ) :
    ∃ report, buildInspectionReport c.task c.snapshot generatedAtMs = .ok report := by
  rw [buildInspectionReport, if_neg (by simp [snapshot])]
  exact ⟨_, rfl⟩

structure AppendOnly (c : InspectionRunController) : Prop where
  numbered : ∀ (n : ℕ) a, c.snapshot.attempts[n]? = some a → a.attemptNumber = n + 1
  distinct : (c.snapshot.attempts.map PointAttemptSnapshot.attemptId).Nodup
  failed : ∀ a ∈ c.snapshot.attempts.dropLast, ∃ phase ∈ retryablePhases,
    a.executionPhase = phase.value
  kept : ∀ later, c.snapshot.attempts.dropLast <+:
    (runAll InspectionOp.step c later).snapshot.attempts.dropLast
  retried : raises retryPoint c = decide (c.phase ∉ retryablePhases)
  refused : c.phase ∉ retryablePhases → InspectionOp.retryPoint.step c = c

theorem attempt_history_is_append_only (runId robotId : String) (task : InspectionTask)
    (start : InspectionRunController) (hstart : init runId robotId task = .ok start)
    (ops : List InspectionOp) :
    AppendOnly (runAll InspectionOp.step start ops) ∧
    (∀ generatedAtMs, ∃ report, buildInspectionReport task
      (runAll InspectionOp.step start ops).snapshot generatedAtMs = .ok report) ∧
    ∀ reported generatedAtMs report, buildInspectionReport reported
      (runAll InspectionOp.step start ops).snapshot generatedAtMs = .ok report →
        KeepsFaultsApart (runAll InspectionOp.step start ops).snapshot report := by
  have hhistory := historical_run hstart ops
  have hgathered := gathered_run hstart ops
  refine ⟨⟨?_, hhistory.nodup, ?_, ?_, retryPoint_raises _, retryPoint_refused⟩, ?_, ?_⟩
  · intro n a ha
    exact (hhistory.snapshot_numbered ha).1
  · intro a ha
    exact (hhistory.failed a (mem_dropLast_attempts ha)).1
  · intro later
    rw [snapshot, snapshot, List.dropLast_concat, List.dropLast_concat]
    exact completed_prefix _ later
  · intro generatedAtMs
    have htask : (runAll InspectionOp.step start ops).task = task := by
      rw [(run_identity start ops).2.2]
      rw [init] at hstart
      split_ifs at hstart
      obtain rfl := Except.ok.inj hstart
      rfl
    rw [← htask]
    exact report_of_own_task _ generatedAtMs
  · intro reported generatedAtMs report hreport
    exact hhistory.report hgathered hreport

def temperatureRetry : List InspectionOp :=
  [.startNavigation, .recordNavigationResult true none, .confirmArrival false none, .retryPoint] ++
    temperatureRun

theorem attempt_history_is_append_only_temperature :
    AppendOnly (runAll InspectionOp.step temperatureStart temperatureRetry) ∧
      (runAll InspectionOp.step temperatureStart temperatureRetry).snapshot.attempts.length = 2 :=
  ⟨(attempt_history_is_append_only "run-1" "robot-1" temperatureTask temperatureStart
    temperature_started temperatureRetry).1, by decide +kernel⟩

end Inspection
