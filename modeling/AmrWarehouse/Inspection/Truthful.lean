import AmrWarehouse.Inspection.PointSuccess

/-! When the record of an attempt stays what it was when its evidence was persisted. -/

namespace Inspection

open Library InspectionRunController

def SameRecord (a b : PointAttemptSnapshot) : Prop :=
  b.attemptId = a.attemptId ∧ b.observation = a.observation ∧ b.qualityResult = a.qualityResult ∧
    b.evaluationResult = a.evaluationResult ∧ b.reason = a.reason

def KeepsRecords (before after : InspectionRunController) : Prop :=
  ∀ (n : ℕ) a, before.snapshot.attempts[n]? = some a → a.evidenceReference.isSome = true →
    ∃ b, after.snapshot.attempts[n]? = some b ∧ SameRecord a b

def TruthfulRun (start : InspectionRunController) (ops : List InspectionOp) : Prop :=
  ∀ earlier later rest, ops = earlier ++ later ++ rest →
    KeepsRecords (runAll InspectionOp.step start earlier)
      (runAll InspectionOp.step start (earlier ++ later))

/-- An attempt with evidence is neither evaluated to another result nor canceled for another
reason. -/
def LeavesRecord (c : InspectionRunController) : InspectionOp → Prop
  | .evaluate evaluator evaluatedAtMs =>
    c.attempt.evidenceReference.isSome = true → c.phase = .evaluating →
      ∀ observation result, c.attempt.observation = some observation →
        c.evaluationOf evaluator evaluatedAtMs observation = some result →
        c.attempt.evaluationResult = some result
  | .cancel reason =>
    c.attempt.evidenceReference.isSome = true → c.phase ∉ settledPhases →
      c.attempt.reason = some reason
  | _ => True

def Evidenced (c : InspectionRunController) : Prop :=
  c.attempt.evidenceReference.isSome = true →
    c.phase ∈ [.evaluating, .pointSucceeded, .succeeded, .navigationFailed, .sensorFailed,
      .dataInvalid, .inspectionFailed, .canceled]

variable {c c' : InspectionRunController} {op : InspectionOp}

lemma Evidenced.advance (h : Evidenced c) (hstep : Advance c op c') : Evidenced c' := by
  intro hevidence
  cases hstep with
  | persisted hp hn evidence =>
    simp only [evidencePhases, List.mem_cons, List.not_mem_nil, or_false] at hp
    change c.phase ∈ _
    rcases hp with hp | hp | hp | hp | hp | hp <;> simp [hp]
  | retried hp => simp [newAttempt] at hevidence
  | pointSucceeded | succeeded | navigationFailed | arrivalRefused | unstable | sensorFailed
  | evaluating | dataInvalid | canceled => simp [withAttempt, phase]
  | evaluated hp => exact h hevidence
  | navigating hp | arrived hp | stabilizing hp | acquiring hp | validating hp =>
    have hphase := h hevidence
    simp [hp] at hphase

lemma evidenced_step (h : Evidenced c) (op : InspectionOp) : Evidenced (op.step c) := by
  rcases step_cases c op with hsame | hstep
  · rwa [hsame]
  · exact h.advance hstep

def Kept (before after : InspectionRunController) : Prop :=
  ∀ (n : ℕ) a, before.snapshot.attempts[n]? = some a → a.evidenceReference.isSome = true →
    ∃ b, after.snapshot.attempts[n]? = some b ∧ b.evidenceReference.isSome = true ∧ SameRecord a b

lemma kept_refl (c : InspectionRunController) : Kept c c :=
  fun _ a ha he => ⟨a, ha, he, rfl, rfl, rfl, rfl, rfl⟩

lemma Kept.trans {c'' : InspectionRunController} (h : Kept c c') (h' : Kept c' c'') :
    Kept c c'' := by
  intro n a ha he
  obtain ⟨b, hb, hbe, hid, hobs, hq, hev, hr⟩ := h n a ha he
  obtain ⟨d, hd, hde, hid', hobs', hq', hev', hr'⟩ := h' n b hb hbe
  exact ⟨d, hd, hde, hid'.trans hid, hobs'.trans hobs, hq'.trans hq, hev'.trans hev,
    hr'.trans hr⟩

lemma Kept.keepsRecords (h : Kept c c') : KeepsRecords c c' := by
  intro n a ha he
  obtain ⟨b, hb, -, hsame⟩ := h n a ha he
  exact ⟨b, hb, hsame⟩

lemma kept_withAttempt {attempt : PointAttempt}
    (h : c.attempt.evidenceReference.isSome = true →
      attempt.evidenceReference.isSome = true ∧ SameRecord c.attempt.snapshot attempt.snapshot) :
    Kept c (c.withAttempt attempt) := by
  intro n a ha he
  have hlength : n ≤ c.completedAttempts.length := by
    have hlt := (List.getElem?_eq_some_iff.mp ha).1
    simp only [snapshot, List.length_append, List.length_singleton] at hlt
    omega
  rcases hlength.lt_or_eq with hold | hcurrent
  · rw [snapshot, List.getElem?_append_left hold] at ha
    refine ⟨a, ?_, he, rfl, rfl, rfl, rfl, rfl⟩
    rw [snapshot, withAttempt, List.getElem?_append_left hold]
    exact ha
  · subst hcurrent
    rw [snapshot, List.getElem?_concat_length, Option.some.injEq] at ha
    subst ha
    refine ⟨attempt.snapshot, ?_, h he⟩
    rw [snapshot, withAttempt, List.getElem?_concat_length]

lemma kept_retried (next : PointAttempt) :
    Kept c { c with
      completedAttempts := c.completedAttempts ++ [c.attempt.snapshot]
      attempt := next } := by
  intro n a ha he
  refine ⟨a, ?_, he, rfl, rfl, rfl, rfl, rfl⟩
  rw [snapshot]
  exact List.getElem?_append_left (List.getElem?_eq_some_iff.mp ha).1 ▸ ha

lemma Kept.advance (h : Evidenced c) (hleaves : LeavesRecord c op) (hstep : Advance c op c') :
    Kept c c' := by
  cases hstep with
  | retried hp => exact kept_retried _
  | persisted hp hn evidence =>
    refine kept_withAttempt fun he => ?_
    simp [hn] at he
  | pointSucceeded | succeeded => exact kept_withAttempt fun he => ⟨he, rfl, rfl, rfl, rfl, rfl⟩
  | evaluated hp ho hr =>
    refine kept_withAttempt fun he => ⟨he, rfl, rfl, rfl, ?_, rfl⟩
    exact (hleaves he hp _ _ ho hr).symm
  | canceled hp reason =>
    exact kept_withAttempt fun he => ⟨he, rfl, rfl, rfl, rfl, (hleaves he hp).symm⟩
  | navigating hp | arrived hp | navigationFailed hp | stabilizing hp | arrivalRefused hp
  | acquiring hp | unstable hp | validating hp | sensorFailed hp | evaluating hp
  | dataInvalid hp =>
    refine kept_withAttempt fun he => ?_
    have hphase := h he
    simp [hp] at hphase

lemma kept_step (h : Evidenced c) (hleaves : LeavesRecord c op) : Kept c (op.step c) := by
  rcases step_cases c op with hsame | hstep
  · rw [hsame]
    exact kept_refl c
  · exact Kept.advance h hleaves hstep

lemma kept_run {ops : List InspectionOp} (h : Evidenced c)
    (hops : Guarded InspectionOp.step LeavesRecord c ops) :
    Kept c (runAll InspectionOp.step c ops) := by
  induction ops generalizing c with
  | nil => exact kept_refl c
  | cons op ops ih => exact (kept_step h hops.1).trans (ih (evidenced_step h op) hops.2)

lemma leavesRecord_of_keepsRecords (h : KeepsRecords c (op.step c)) : LeavesRecord c op := by
  have hcurrent : c.snapshot.attempts[c.completedAttempts.length]? = some c.attempt.snapshot := by
    rw [snapshot, List.getElem?_concat_length]
  cases op with
  | evaluate evaluator evaluatedAtMs =>
    intro he hp observation result ho hr
    obtain ⟨b, hb, -, -, -, heval, -⟩ := h _ _ hcurrent he
    rw [step_of_advance (.evaluated hp ho hr), snapshot, withAttempt, List.getElem?_concat_length,
      Option.some.injEq] at hb
    subst hb
    exact heval.symm
  | cancel reason =>
    intro he hp
    obtain ⟨b, hb, -, -, -, -, hreason⟩ := h _ _ hcurrent he
    rw [step_of_advance (.canceled hp reason), snapshot, withAttempt, List.getElem?_concat_length,
      Option.some.injEq] at hb
    subst hb
    exact hreason.symm
  | _ => trivial

lemma evidenced_init {runId robotId : String} {task : InspectionTask}
    (h : init runId robotId task = .ok c) : Evidenced c := by
  rw [init] at h
  split_ifs at h
  obtain rfl := Except.ok.inj h
  simp [Evidenced, newAttempt]

lemma evidenced_run (h : Evidenced c) (ops : List InspectionOp) :
    Evidenced (runAll InspectionOp.step c ops) :=
  (guarded_of_forall (fun _ _ => trivial) c ops).invariant Evidenced
    (fun _ op hc (_ : True) => evidenced_step hc op) h

lemma guarded_of_truthful {ops : List InspectionOp} (h : TruthfulRun c ops) :
    Guarded InspectionOp.step LeavesRecord c ops := by
  induction ops generalizing c with
  | nil => trivial
  | cons op ops ih =>
    refine ⟨leavesRecord_of_keepsRecords (h [] [op] ops rfl), ih ?_⟩
    intro earlier later rest hops
    exact h (op :: earlier) later rest (by rw [hops]; rfl)

lemma truthful_of_guarded {ops : List InspectionOp} (h : Evidenced c)
    (hops : Guarded InspectionOp.step LeavesRecord c ops) : TruthfulRun c ops := by
  rintro earlier later rest rfl
  rw [guarded_append, guarded_append] at hops
  rw [runAll_append]
  exact (kept_run (evidenced_run h earlier) hops.1.2).keepsRecords

theorem truthful_iff_records_left_alone (runId robotId : String) (task : InspectionTask)
    (start : InspectionRunController) (hstart : init runId robotId task = .ok start)
    (ops : List InspectionOp) :
    TruthfulRun start ops ↔ Guarded InspectionOp.step LeavesRecord start ops :=
  ⟨guarded_of_truthful, truthful_of_guarded (evidenced_init hstart)⟩

theorem truthful_iff_records_left_alone_temperature :
    TruthfulRun temperatureStart temperatureRun ↔
      Guarded InspectionOp.step LeavesRecord temperatureStart temperatureRun :=
  truthful_iff_records_left_alone "run-1" "robot-1" temperatureTask temperatureStart
    temperature_started temperatureRun

/-- A second evaluation after the evidence, at another time. -/
theorem evaluation_after_evidence_rewrites :
    ¬ TruthfulRun temperatureStart (temperatureOps ++ [.evaluate none (some 2000)]) := by
  intro h
  obtain ⟨b, hb, -, -, -, heval, -⟩ := h temperatureOps [.evaluate none (some 2000)] [] (by simp) 0
    (runAll InspectionOp.step temperatureStart temperatureOps).attempt.snapshot
    (by decide +kernel) (by decide +kernel)
  have hrewritten : (runAll InspectionOp.step temperatureStart
      (temperatureOps ++ [.evaluate none (some 2000)])).snapshot.attempts[0]?.map
        PointAttemptSnapshot.evaluationResult ≠
      some (runAll InspectionOp.step temperatureStart temperatureOps).attempt.evaluationResult := by
    decide +kernel
  rw [hb] at hrewritten
  exact hrewritten (congrArg some heval)

end Inspection
