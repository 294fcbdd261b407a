import AmrWarehouse.Inspection.StoredEvidence
import AmrWarehouse.Inspection.EndToEnd
import AmrWarehouse.Inspection.History
import AmrWarehouse.Inspection.WriteOnce

/-! The evidence that a run refers to is on disk, and says what the attempt was. -/

namespace Inspection

open Library FileSystem InspectionRunController

/-- Whoever else writes evidence may do so to any store on the same disk. -/
inductive ArchiveOp
  | operate (op : InspectionOp)
  | process (processor : StoringProcessor) (fault : Option IoFault) (nowMs : ℤ)
  | finalize (processor : StoringProcessor) (fault : Option IoFault) (nowMs : ℤ)
  | elsewhere (codec : EvidenceCodec) (store : LocalJsonEvidenceStore) (call : PersistCall)

namespace ArchiveOp

def step (archive : Archive) : ArchiveOp → Archive
  | operate op => final (atVisit (onController op.call)) archive
  | process processor fault nowMs => final (processor.processCurrentAttempt fault nowMs) archive
  | finalize processor fault nowMs => final (processor.finalizeCurrentFailure fault nowMs) archive
  | elsewhere codec store call => { archive with files := call.after codec store archive.files }

/-- Only the processor hands evidence to the controller, and it is always the same store. -/
def Allowed (codec : EvidenceCodec) (store : LocalJsonEvidenceStore) : ArchiveOp → Prop
  | operate op => ∀ reference, op ≠ .persistEvidence reference
  | process processor _ _ | finalize processor _ _ =>
    processor.codec = codec ∧ processor.evidenceStore = store
  | elsewhere _ _ _ => True

def report? (archive : Archive) : ArchiveOp → Option InspectionReport
  | process processor fault nowMs =>
    match (processor.processCurrentAttempt fault nowMs).run archive with
    | .ok report _ => some report
    | .error _ _ => none
  | finalize processor fault nowMs =>
    match (processor.finalizeCurrentFailure fault nowMs).run archive with
    | .ok report _ => some report
    | .error _ _ => none
  | _ => none

end ArchiveOp

/-- What the evidence of an attempt records: the attempt when the evidence was made, which has only
been completed or canceled since. -/
inductive RecordedAs (a : PointAttemptSnapshot) : PointAttemptSnapshot → Prop
  | unchanged (h : a.executionPhase ∉ ["point_succeeded", "succeeded"]) :
    RecordedAs a { a with evidenceReference := none }
  | succeeded (h : a.executionPhase ∈ ["point_succeeded", "succeeded"]) :
    RecordedAs a { a with evidenceReference := none, executionPhase := "evaluating" }
  | canceled (h : a.executionPhase = "canceled") {phase : InspectionExecutionPhase}
    (hphase : phase ∈ retryablePhases) (reason : Option String) :
    RecordedAs a
      { a with evidenceReference := none, executionPhase := phase.value, reason := reason }

structure Backed (codec : EvidenceCodec) (store : LocalJsonEvidenceStore) (runId : String)
    (files : FileSystem) (a : PointAttemptSnapshot) (reference : EvidenceReference) : Prop where
  uri : reference.uri = (store.artifactPath runId a.attemptId).asUri
  content : ∃ recorded, RecordedAs a recorded ∧
    (readBytes (store.artifactPath runId a.attemptId)).run files =
      .ok (encodeEvidence codec runId recorded) files ∧
    codec.hexdigest (encodeEvidence codec runId recorded) = reference.sha256

structure Persisted (codec : EvidenceCodec) (store : LocalJsonEvidenceStore) (runId : String)
    (files : FileSystem) (attempt : PointAttemptSnapshot) (reference : EvidenceReference) :
    Prop where
  safeRun : SafeComponent runId
  safeAttempt : SafeComponent attempt.attemptId
  stored : Stored store runId attempt.attemptId (encodeEvidence codec runId attempt) files
  reference_eq : reference = evidenceReference codec (store.artifactPath runId attempt.attemptId)
    (encodeEvidence codec runId attempt)

def Deposited (codec : EvidenceCodec) (store : LocalJsonEvidenceStore) (runId : String)
    (files : FileSystem) (a : PointAttemptSnapshot) (reference : EvidenceReference) : Prop :=
  ∃ recorded, RecordedAs a recorded ∧ Persisted codec store runId files recorded reference

def closedPhases : List InspectionExecutionPhase :=
  [.pointSucceeded, .succeeded, .navigationFailed, .sensorFailed, .dataInvalid, .inspectionFailed,
    .canceled]

structure Sealed (codec : EvidenceCodec) (store : LocalJsonEvidenceStore) (runId : String)
    (c : InspectionRunController) (files : FileSystem) : Prop where
  owner : c.runId = runId
  gathered : Gathered c fun _ => True
  closed : c.attempt.evidenceReference.isSome = true → c.phase ∈ closedPhases
  deposited : ∀ a ∈ c.snapshot.attempts, ∀ reference, a.evidenceReference = some reference →
    Deposited codec store runId files a reference

variable {codec : EvidenceCodec} {store : LocalJsonEvidenceStore} {runId : String}
  {files files' : FileSystem} {a recorded : PointAttemptSnapshot} {reference : EvidenceReference}
  {c c' : InspectionRunController} {op : InspectionOp}

section Records

lemma RecordedAs.attemptId (h : RecordedAs a recorded) : recorded.attemptId = a.attemptId := by
  cases h <;> rfl

lemma Persisted.grows (h : Persisted codec store runId files a reference)
    (hgrows : Grows files files') : Persisted codec store runId files' a reference :=
  { h with stored := h.stored.grows hgrows }

lemma Deposited.grows (h : Deposited codec store runId files a reference)
    (hgrows : Grows files files') : Deposited codec store runId files' a reference := by
  obtain ⟨recorded, hrecorded, hpersisted⟩ := h
  exact ⟨recorded, hrecorded, hpersisted.grows hgrows⟩

lemma Deposited.backed (h : Deposited codec store runId files a reference) :
    Backed codec store runId files a reference := by
  obtain ⟨recorded, hrecorded, -, -, hstored, rfl⟩ := h
  rw [hrecorded.attemptId] at hstored ⊢
  exact ⟨rfl, recorded, hrecorded, run_readBytes_of_stored hstored, rfl⟩

end Records

section Advances

lemma Sealed.grows (h : Sealed codec store runId c files) (hgrows : Grows files files') :
    Sealed codec store runId c files' :=
  { h with deposited := fun a ha reference hreference =>
      (h.deposited a ha reference hreference).grows hgrows }

lemma current_mem_attempts (c : InspectionRunController) :
    c.attempt.snapshot ∈ c.snapshot.attempts := by
  simp [snapshot]

lemma Sealed.current (h : Sealed codec store runId c files) {reference : EvidenceReference}
    (hreference : c.attempt.evidenceReference = some reference) :
    Deposited codec store runId files c.attempt.snapshot reference :=
  h.deposited _ (current_mem_attempts c) reference hreference

lemma Sealed.unpersisted (h : Sealed codec store runId c files) (hphase : c.phase ∉ closedPhases) :
    c.attempt.evidenceReference = none := by
  cases hreference : c.attempt.evidenceReference with
  | none => rfl
  | some reference => exact absurd (h.closed (by rw [hreference]; rfl)) hphase

lemma Sealed.withAttempt (h : Sealed codec store runId c files) {attempt : PointAttempt}
    (hgathered : Gathered (c.withAttempt attempt) fun _ => True)
    (hreference : ∀ reference, attempt.evidenceReference = some reference →
      attempt.phase ∈ closedPhases ∧
        Deposited codec store runId files attempt.snapshot reference) :
    Sealed codec store runId (c.withAttempt attempt) files where
  owner := h.owner
  gathered := hgathered
  closed := fun hsome => by
    obtain ⟨reference, heq⟩ := Option.isSome_iff_exists.mp hsome
    exact (hreference reference heq).1
  deposited := fun a ha reference heq => by
    rcases mem_attempts ha with hold | rfl
    · exact h.deposited a (by rw [snapshot]; exact List.mem_append_left _ hold) reference heq
    · exact (hreference reference heq).2

lemma Sealed.advance (h : Sealed codec store runId c files)
    (hop : ∀ reference, op ≠ .persistEvidence reference) (hstep : Advance c op c') :
    Sealed codec store runId c' files := by
  have hgathered : Gathered c' fun _ => True :=
    h.gathered.advance (fun _ _ _ => trivial) (fun _ _ _ _ _ _ => trivial) hstep
  cases hstep with
  | persisted hp hn evidence => exact absurd rfl (hop evidence)
  | retried hp =>
    refine ⟨h.owner, hgathered, by simp [newAttempt], fun a ha reference heq => ?_⟩
    rcases mem_attempts ha with hold | rfl
    · exact h.deposited a hold reference heq
    · simp [newAttempt, PointAttempt.snapshot] at heq
  | pointSucceeded hp hm =>
    have hsome := (complete_of_nothing_missing hm).2
    rw [h.unpersisted (by rw [hp]; decide)] at hsome
    simp at hsome
  | succeeded hp =>
    refine h.withAttempt hgathered fun reference heq => ⟨by simp [closedPhases], ?_⟩
    obtain ⟨recorded, hrecorded, hpersisted⟩ := h.current heq
    refine ⟨_, .succeeded (by simp [PointAttempt.snapshot, InspectionExecutionPhase.value]), ?_⟩
    rw [phase] at hp
    cases hrecorded with
    | unchanged hphase =>
      exact absurd (by simp [PointAttempt.snapshot, hp, InspectionExecutionPhase.value]) hphase
    | succeeded => exact hpersisted
    | canceled hphase =>
      simp [PointAttempt.snapshot, hp, InspectionExecutionPhase.value] at hphase
  | canceled hp reason =>
    refine h.withAttempt hgathered fun reference heq => ⟨by simp [closedPhases], ?_⟩
    have hretryable : c.phase ∈ retryablePhases := by
      have hclosed := h.closed (by rw [heq]; rfl)
      simp only [closedPhases, settledPhases, retryablePhases, List.mem_cons, List.not_mem_nil,
        or_false] at hclosed hp ⊢
      tauto
    obtain ⟨recorded, hrecorded, hpersisted⟩ := h.current heq
    refine ⟨_, .canceled rfl hretryable c.attempt.reason, ?_⟩
    have hvalue := (value_mem_failedPhases c.phase).mpr hretryable
    rw [phase] at hvalue
    cases hrecorded with
    | unchanged => exact hpersisted
    | succeeded hphase =>
      simp only [PointAttempt.snapshot, List.mem_cons, List.not_mem_nil, or_false] at hphase
      rcases hphase with hphase | hphase <;> simp [hphase, failedPhases] at hvalue
    | canceled hphase =>
      simp only [PointAttempt.snapshot] at hphase
      simp [hphase, failedPhases] at hvalue
  | navigating hp | arrived hp | navigationFailed hp | stabilizing hp | arrivalRefused hp
  | acquiring hp | unstable hp | validating hp | sensorFailed hp | evaluating hp | dataInvalid hp
  | evaluated hp =>
    refine h.withAttempt hgathered fun reference heq => ?_
    have hnone := h.unpersisted (by rw [hp]; decide)
    simp [hnone] at heq

lemma sealed_init {robotId : String} {task : InspectionTask} (h : init runId robotId task = .ok c)
    (files : FileSystem) : Sealed codec store runId c files := by
  have hgathered : Gathered c fun _ => True := gathered_init h
  rw [init] at h
  split_ifs at h
  obtain rfl := Except.ok.inj h
  exact ⟨rfl, hgathered, by simp [newAttempt],
    by simp [snapshot, newAttempt, PointAttempt.snapshot]⟩

end Advances

section Processor

variable {processor : StoringProcessor} {fault : Option IoFault} {archive : Archive} {nowMs : ℤ}

def InPlace (codec : EvidenceCodec) (store : LocalJsonEvidenceStore) (runId : String)
    (archive : Archive) : Prop :=
  Sealed codec store runId archive.visit.controller archive.files

structure Evidences (codec : EvidenceCodec) (store : LocalJsonEvidenceStore) (runId : String)
    (attempts : List PointAttemptSnapshot) (files : FileSystem) (report : InspectionReport) :
    Prop where
  closed : report.completion ≠ .inProgress
  reported : report.attempts = attempts.map attemptReport
  last : ∃ a, attempts.getLast? = some a ∧ a.evidenceReference.isSome = true
  backed : ∀ a ∈ attempts, ∀ reference, a.evidenceReference = some reference →
    Backed codec store runId files a reference

structure Delivers (codec : EvidenceCodec) (store : LocalJsonEvidenceStore) (runId : String)
    (report : InspectionReport) (archive : Archive) : Prop where
  inPlace : InPlace codec store runId archive
  closed : report.completion ≠ .inProgress
  reported : report.attempts = archive.visit.controller.snapshot.attempts.map attemptReport
  current : archive.visit.controller.attempt.evidenceReference.isSome = true

lemma Delivers.evidences {report : InspectionReport}
    (h : Delivers codec store runId report archive) (hgrows : Grows archive.files files) :
    Evidences codec store runId archive.visit.controller.snapshot.attempts files report where
  closed := h.closed
  reported := h.reported
  last := ⟨archive.visit.controller.attempt.snapshot, by simp [snapshot], h.current⟩
  backed := fun a ha reference hreference =>
    ((h.inPlace.deposited a ha reference hreference).grows hgrows).backed

lemma ends_atVisit {α : Type} {call : Call Visit α} {Q : α → Archive → Prop} {E : Archive → Prop} :
    Ends (atVisit call) archive Q E ↔ Ends call archive.visit
      (fun a visit => Q a { archive with visit := visit })
      (fun visit => E { archive with visit := visit }) := by
  rw [atVisit, ends_focus, ends_mapError]

lemma ends_operate (op : InspectionOp) {Q : Unit → Archive → Prop} {E : Archive → Prop}
    (hq : ∀ c', Advance archive.visit.controller op c' →
      Q () { archive with visit := { archive.visit with controller := c' } })
    (he : E archive) : Ends (atVisit (onController op.call)) archive Q E := by
  rw [ends_atVisit, onController, ends_focus]
  refine (ends_call op).mono (fun _ c' h => hq c' h) (fun c' h => ?_)
  subst h
  exact he

lemma ends_advance {call : Call InspectionRunController Unit} (op : InspectionOp)
    (hcall : op.call = call) (hadvance : Advance archive.visit.controller op c')
    {Q : Unit → Archive → Prop} {E : Archive → Prop}
    (hq : Q () { archive with visit := { archive.visit with controller := c' } }) :
    Ends (atVisit (onController call)) archive Q E := by
  subst hcall
  rw [ends_atVisit]
  exact ends_onController (run_of_advance hadvance) hq

lemma ends_storeAttempt
    (hphase : archive.visit.controller.phase ∈ evidencePhases)
    (hnone : archive.visit.controller.attempt.evidenceReference = none) :
    Ends (processor.persistCurrentAttempt fault) archive
      (fun _ archive' => Grows archive.files archive'.files ∧ ∃ reference,
        archive'.visit.controller = archive.visit.controller.withAttempt
          { archive.visit.controller.attempt with evidenceReference := some reference } ∧
        Persisted processor.codec processor.evidenceStore archive.visit.controller.runId
          archive'.files archive.visit.controller.attempt.snapshot reference)
      (fun archive' => Grows archive.files archive'.files ∧
        archive'.visit.controller = archive.visit.controller) := by
  have hgrows := LocalJsonEvidenceStore.grows_persistAttempt processor.codec
    processor.evidenceStore fault archive.visit.controller.runId
    archive.visit.controller.attempt.snapshot archive.files
  simp only [StoringProcessor.persistCurrentAttempt, ends_bind, ends_get, ends_atVisit, enter,
    ends_modify, atFiles, ends_focus, ends_mapError]
  rw [Ends]
  cases hrun : (processor.evidenceStore.persistAttempt processor.codec fault
      archive.visit.controller.runId archive.visit.controller.attempt.snapshot).run
      archive.files with
  | error e files' =>
    rw [final_of_error hrun] at hgrows
    exact ⟨hgrows, trivial⟩
  | ok reference files' =>
    rw [final_of_ok hrun] at hgrows
    obtain ⟨hsafe, hid⟩ := safe_of_returns hrun
    obtain ⟨hstored, hreference⟩ := stored_of_returns hrun
    dsimp only
    refine ends_onController (run_of_advance (.persisted hphase hnone reference)) ?_
    exact ⟨hgrows, reference, rfl, hsafe, hid, hstored, hreference⟩

lemma snapshot_of_unpersisted {attempt : PointAttempt} (hnone : attempt.evidenceReference = none)
    (reference : EvidenceReference) : attempt.snapshot =
      { PointAttempt.snapshot { attempt with evidenceReference := some reference } with
        evidenceReference := none } := by
  rw [PointAttempt.snapshot, PointAttempt.snapshot, hnone]

lemma ends_report (h : InPlace codec store runId archive)
    (hover : completionOf archive.visit.controller.phase.value ≠ .inProgress)
    (hevidence : archive.visit.controller.attempt.evidenceReference.isSome = true) :
    Ends (StoringProcessor.buildReport nowMs) archive
      (Delivers codec store runId) (InPlace codec store runId) := by
  obtain ⟨report, hreport⟩ := report_of_own_task archive.visit.controller nowMs
  simp only [StoringProcessor.buildReport, ends_atVisit, InspectionPointProcessor.buildReport,
    ends_bind, ends_get, hreport, ends_orRaise_ok]
  rw [buildInspectionReport, if_neg (by simp [snapshot])] at hreport
  obtain rfl := Except.ok.inj hreport
  exact ⟨h, hover, rfl, hevidence⟩

lemma ends_storeAndReport (h : InPlace codec store runId archive)
    (hcodec : processor.codec = codec) (hstore : processor.evidenceStore = store)
    (hphase : archive.visit.controller.phase ∈ InspectionPointProcessor.failurePhases)
    (hnone : archive.visit.controller.attempt.evidenceReference = none) :
    Ends (do
        processor.persistCurrentAttempt fault
        StoringProcessor.buildReport nowMs) archive
      (Delivers codec store runId) (InPlace codec store runId) := by
  subst hcodec hstore
  have hallowed : ∀ phase ∈ InspectionPointProcessor.failurePhases, phase ∈ evidencePhases ∧
      phase ∈ closedPhases ∧ phase.value ∉ ["point_succeeded", "succeeded"] ∧
      completionOf phase.value ≠ .inProgress := by
    decide
  obtain ⟨hevidence, hclosed, hunfinished, hover⟩ := hallowed _ hphase
  rw [ends_bind]
  refine (ends_storeAttempt hevidence hnone).mono ?_ ?_
  · rintro _ archive' ⟨hgrows, reference, hcontroller, hpersisted⟩
    refine ends_report ?_ (by rwa [hcontroller]) (by rw [hcontroller]; rfl)
    rw [InPlace, hcontroller]
    refine (h.grows hgrows).withAttempt ?_ ?_
    · exact h.gathered.advance (fun _ _ _ => trivial) (fun _ _ _ _ _ _ => trivial)
        (.persisted hevidence hnone reference)
    · intro other heq
      obtain rfl : reference = other := Option.some.inj heq
      rw [h.owner, snapshot_of_unpersisted hnone reference] at hpersisted
      exact ⟨hclosed, _, .unchanged hunfinished, hpersisted⟩
  · rintro archive' ⟨hgrows, hcontroller⟩
    rw [InPlace, hcontroller]
    exact h.grows hgrows

lemma nothing_missing (h : Gathered c fun _ => True) (hphase : c.phase = .evaluating)
    (hevaluated : c.attempt.evaluationResult.isSome = true)
    (hevidence : c.attempt.evidenceReference.isSome = true) : missingOf c.attempt = [] := by
  rw [phase] at hphase
  obtain ⟨quality, hquality, hpassed⟩ := h.passed (by rw [hphase]; decide)
  simp [missingOf, h.navigation (by rw [hphase]; decide), h.arrival (by rw [hphase]; decide),
    h.stabilization (by rw [hphase]; decide), hquality, hpassed, hevaluated, hevidence]

lemma Sealed.completed (h : Sealed codec store runId c files) (hphase : c.phase = .evaluating)
    (hevaluated : c.attempt.evaluationResult.isSome = true) (hgrows : Grows files files')
    (hpersisted : Persisted codec store runId files' c.attempt.snapshot reference) :
    Advance (c.withAttempt { c.attempt with evidenceReference := some reference }) .completePoint
        (c.withAttempt { c.attempt with
          evidenceReference := some reference, phase := .pointSucceeded }) ∧
      Sealed codec store runId (c.withAttempt { c.attempt with
        evidenceReference := some reference, phase := .pointSucceeded }) files' := by
  have hnone := h.unpersisted (by rw [hphase]; decide)
  have hgathered : Gathered (c.withAttempt { c.attempt with evidenceReference := some reference })
      fun _ => True :=
    h.gathered.advance (fun _ _ _ => trivial) (fun _ _ _ _ _ _ => trivial)
      (.persisted (by rw [hphase]; decide) hnone reference)
  have hcompleted : Advance (c.withAttempt { c.attempt with evidenceReference := some reference })
      .completePoint (c.withAttempt { c.attempt with
        evidenceReference := some reference, phase := .pointSucceeded }) :=
    .pointSucceeded hphase (nothing_missing hgathered hphase hevaluated rfl)
  refine ⟨hcompleted, (h.grows hgrows).withAttempt ?_ fun other heq => ?_⟩
  · exact hgathered.advance (fun _ _ _ => trivial) (fun _ _ _ _ _ _ => trivial) hcompleted
  · obtain rfl : reference = other := Option.some.inj heq
    have hrecorded : c.attempt.snapshot =
        { PointAttempt.snapshot { c.attempt with
            evidenceReference := some reference, phase := .pointSucceeded } with
          evidenceReference := none, executionPhase := "evaluating" } := by
      rw [phase] at hphase
      rw [PointAttempt.snapshot, PointAttempt.snapshot, hnone, hphase]
      rfl
    rw [hrecorded] at hpersisted
    refine ⟨by simp [closedPhases], _, .succeeded ?_, hpersisted⟩
    simp [PointAttempt.snapshot, InspectionExecutionPhase.value]

lemma ends_storeAndComplete (h : InPlace codec store runId archive)
    (hcodec : processor.codec = codec) (hstore : processor.evidenceStore = store)
    (hphase : archive.visit.controller.phase = .evaluating)
    (hevaluated : archive.visit.controller.attempt.evaluationResult.isSome = true) :
    Ends (do
        processor.persistCurrentAttempt fault
        atVisit (onController completePoint)
        atVisit (onController completeRun)
        StoringProcessor.buildReport nowMs) archive
      (Delivers codec store runId) (InPlace codec store runId) := by
  subst hcodec hstore
  rw [ends_bind]
  refine (ends_storeAttempt (by rw [hphase]; decide)
    (h.unpersisted (by rw [hphase]; decide))).mono ?_ ?_
  · rintro _ ⟨⟨controller, entered⟩, files'⟩ ⟨hgrows, reference, rfl, hpersisted⟩
    rw [h.owner] at hpersisted
    obtain ⟨hcompleted, hsealed⟩ := h.completed hphase hevaluated hgrows hpersisted
    rw [ends_bind]
    refine ends_advance .completePoint rfl hcompleted ?_
    rw [ends_bind]
    refine ends_advance .completeRun rfl (.succeeded rfl) ?_
    refine ends_report ?_ ?_ rfl
    · exact hsealed.advance (by simp) (.succeeded rfl)
    · change completionOf InspectionExecutionPhase.succeeded.value ≠ .inProgress
      decide
  · rintro archive' ⟨hgrows, hcontroller⟩
    rw [InPlace, hcontroller]
    exact h.grows hgrows

lemma ends_inspect (h : InPlace codec store runId archive)
    (hcodec : processor.codec = codec) (hstore : processor.evidenceStore = store)
    (hphase : archive.visit.controller.phase = .acquiring) (observation : MockObservation) :
    Ends (processor.inspectObservation fault observation nowMs) archive
      (Delivers codec store runId) (InPlace codec store runId) := by
  have hnone := h.unpersisted (by rw [hphase]; decide)
  rw [StoringProcessor.inspectObservation, ends_bind]
  refine ends_advance (.recordObservation observation) rfl (.validating hphase observation) ?_
  set validating := archive.visit.controller.withAttempt
    { archive.visit.controller.attempt with observation := some observation, phase := .validating }
  have hvalidating : Sealed codec store runId validating archive.files :=
    h.advance (by simp) (.validating hphase observation)
  rw [ends_bind, ends_atVisit, enter, ends_modify, ends_bind, ends_atVisit]
  cases hpass : (validating.qualityOf observation nowMs).passed with
  | false =>
    refine ends_onController (run_validateObservation_failed rfl rfl hpass) ?_
    rw [if_neg (by simp [hpass])]
    refine ends_storeAndReport (hvalidating.advance (by simp) (.dataInvalid rfl rfl nowMs hpass))
      hcodec hstore ?_ hnone
    change InspectionExecutionPhase.dataInvalid ∈ InspectionPointProcessor.failurePhases
    decide
  | true =>
    refine ends_onController (run_validateObservation_passed rfl rfl hpass) ?_
    rw [if_pos hpass, ends_bind, ends_atVisit, enter, ends_modify, ends_bind, ends_atVisit,
      ends_discard, onController, ends_focus]
    have hevaluating := hvalidating.advance (by simp) (.evaluating rfl rfl nowMs hpass)
    refine (ends_discard.mp (ends_call
      (.evaluate (some processor.evaluator) (some nowMs)))).mono ?_ ?_
    · intro _ evaluated hstep
      have hevaluated := hevaluating.advance (by simp) hstep
      generalize hbefore : validating.withAttempt _ = before at hstep hevaluating
      cases hstep with
      | evaluated hp ho hr =>
        exact ends_storeAndComplete hevaluated hcodec hstore hp rfl
    · rintro _ rfl
      exact hevaluating

lemma ends_process (h : InPlace codec store runId archive) (hcodec : processor.codec = codec)
    (hstore : processor.evidenceStore = store) :
    Ends (processor.processCurrentAttempt fault nowMs) archive
      (Delivers codec store runId) (InPlace codec store runId) := by
  rw [StoringProcessor.processCurrentAttempt, ends_bind, ends_get]
  by_cases hphase : archive.visit.controller.phase = .acquiring
  · rw [if_neg (not_not.mpr hphase), ends_bind, ends_atVisit, enter, ends_modify]
    cases processor.acquire
      (InspectionPointProcessor.acquisitionRequest archive.visit.controller) nowMs with
    | ok observation =>
      refine ends_inspect ?_ hcodec hstore ?_ observation
      · exact h
      · exact hphase
    | error e =>
      dsimp only
      split_ifs
      · rw [ends_bind]
        refine ends_advance (.recordSensorFailure e.message) rfl
          (.sensorFailed (by exact hphase) e.message) ?_
        refine ends_storeAndReport (h.advance (by simp) (.sensorFailed hphase e.message)) hcodec
          hstore ?_ (h.unpersisted (by rw [hphase]; decide))
        change InspectionExecutionPhase.sensorFailed ∈ InspectionPointProcessor.failurePhases
        decide
      · exact h
  · rw [if_pos hphase]
    exact h

lemma ends_finalize (h : InPlace codec store runId archive) (hcodec : processor.codec = codec)
    (hstore : processor.evidenceStore = store) :
    Ends (processor.finalizeCurrentFailure fault nowMs) archive
      (Delivers codec store runId) (InPlace codec store runId) := by
  rw [StoringProcessor.finalizeCurrentFailure, ends_bind, ends_get]
  by_cases hphase : archive.visit.controller.phase ∈ InspectionPointProcessor.failurePhases
  · rw [if_neg (not_not.mpr hphase), whenever]
    split_ifs with hnone
    · exact ends_storeAndReport h hcodec hstore hphase hnone
    · have hover : ∀ phase ∈ InspectionPointProcessor.failurePhases,
          completionOf phase.value ≠ .inProgress := by
        decide
      exact ends_report h (hover _ hphase) (Option.ne_none_iff_isSome.mp hnone)
  · rw [if_pos hphase]
    exact h

end Processor

section Grows

variable {α : Type} (files : FileSystem) (processor : StoringProcessor) (fault : Option IoFault)
  (nowMs : ℤ)

def Grown (archive : Archive) : Prop := Grows files archive.files

lemma grown_atVisit (call : Call Visit α) : Preserves (Grown files) (atVisit call) := by
  intro archive h
  rw [ends_atVisit]
  exact ends_self.mono (fun _ _ _ => h) (fun _ _ => h)

lemma grown_persistCurrentAttempt :
    Preserves (Grown files) (processor.persistCurrentAttempt fault) := by
  refine preserves_bind preserves_get fun archive => ?_
  refine preserves_bind (grown_atVisit files _) fun _ => ?_
  refine preserves_bind (fun archive' h => ?_) fun _ => grown_atVisit files _
  rw [atFiles, ends_focus, ends_mapError]
  have hgrows := LocalJsonEvidenceStore.grows_persistAttempt processor.codec
    processor.evidenceStore fault archive.visit.controller.runId
    archive.visit.controller.attempt.snapshot archive'.files
  refine ends_self.mono (fun _ files' heq => ?_) (fun files' heq => ?_) <;>
  · subst heq
    exact h.trans hgrows

lemma grown_buildReport : Preserves (Grown files) (StoringProcessor.buildReport nowMs) :=
  grown_atVisit files _

lemma grown_inspectObservation (observation : MockObservation) :
    Preserves (Grown files) (processor.inspectObservation fault observation nowMs) := by
  refine preserves_bind (grown_atVisit files _) fun _ => ?_
  refine preserves_bind (grown_atVisit files _) fun _ => ?_
  refine preserves_bind (grown_atVisit files _) fun _ => preserves_ite (fun _ => ?_) (fun _ => ?_)
  · refine preserves_bind (grown_atVisit files _) fun _ => ?_
    refine preserves_bind (grown_atVisit files _) fun _ => ?_
    refine preserves_bind (grown_persistCurrentAttempt files processor fault) fun _ => ?_
    refine preserves_bind (grown_atVisit files _) fun _ => ?_
    exact preserves_bind (grown_atVisit files _) fun _ => grown_buildReport files nowMs
  · exact preserves_bind (grown_persistCurrentAttempt files processor fault)
      fun _ => grown_buildReport files nowMs

lemma grown_processCurrentAttempt :
    Preserves (Grown files) (processor.processCurrentAttempt fault nowMs) := by
  refine preserves_bind preserves_get fun archive => ?_
  refine preserves_ite (fun _ => preserves_throw _) (fun _ => ?_)
  refine preserves_bind (grown_atVisit files _) fun _ => ?_
  cases processor.acquire
    (InspectionPointProcessor.acquisitionRequest archive.visit.controller) nowMs with
  | ok observation => exact grown_inspectObservation files processor fault nowMs observation
  | error e =>
    refine preserves_ite (fun _ => ?_) (fun _ => preserves_throw _)
    refine preserves_bind (grown_atVisit files _) fun _ => ?_
    exact preserves_bind (grown_persistCurrentAttempt files processor fault)
      fun _ => grown_buildReport files nowMs

lemma grown_finalizeCurrentFailure :
    Preserves (Grown files) (processor.finalizeCurrentFailure fault nowMs) := by
  refine preserves_bind preserves_get fun archive => ?_
  refine preserves_ite (fun _ => preserves_throw _) (fun _ => ?_)
  exact preserves_bind (preserves_whenever (grown_persistCurrentAttempt files processor fault))
    fun _ => grown_buildReport files nowMs

lemma grows_step (archive : Archive) (op : ArchiveOp) :
    Grows archive.files (op.step archive).files := by
  cases op with
  | operate op => exact (grown_atVisit archive.files _).final (Grows.refl _)
  | process processor fault nowMs =>
    exact (grown_processCurrentAttempt archive.files processor fault nowMs).final (Grows.refl _)
  | finalize processor fault nowMs =>
    exact (grown_finalizeCurrentFailure archive.files processor fault nowMs).final (Grows.refl _)
  | elsewhere codec store call =>
    exact LocalJsonEvidenceStore.grows_persistAttempt codec store _ _ _ _

lemma grows_run (archive : Archive) (ops : List ArchiveOp) :
    Grows archive.files (runAll ArchiveOp.step archive ops).files := by
  induction ops generalizing archive with
  | nil => exact Grows.refl _
  | cons op ops ih => exact (grows_step archive op).trans (ih (op.step archive))

end Grows

section Runs

variable {archive : Archive} {op : ArchiveOp}

lemma inPlace_step (h : InPlace codec store runId archive) (hop : op.Allowed codec store) :
    InPlace codec store runId (op.step archive) := by
  cases op with
  | operate op =>
    exact (ends_operate op (Q := fun _ => InPlace codec store runId)
      (fun c' hstep => h.advance hop hstep) h).final
  | process processor fault nowMs =>
    exact ((ends_process h hop.1 hop.2).mono (fun _ _ h => h.inPlace) (fun _ h => h)).final
  | finalize processor fault nowMs =>
    exact ((ends_finalize h hop.1 hop.2).mono (fun _ _ h => h.inPlace) (fun _ h => h)).final
  | elsewhere codec' store' call =>
    exact h.grows (LocalJsonEvidenceStore.grows_persistAttempt codec' store' _ _ _ _)

lemma delivers_of_report (h : InPlace codec store runId archive) (hop : op.Allowed codec store)
    {report : InspectionReport} (hreport : op.report? archive = some report) :
    Delivers codec store runId report (op.step archive) := by
  cases op with
  | operate | elsewhere => simp [ArchiveOp.report?] at hreport
  | process processor fault nowMs =>
    rw [ArchiveOp.report?] at hreport
    split at hreport
    · rename_i report' archive' hrun
      obtain rfl := Option.some.inj hreport
      rw [ArchiveOp.step, final_of_ok hrun]
      exact (ends_process h hop.1 hop.2).of_ok hrun
    · simp at hreport
  | finalize processor fault nowMs =>
    rw [ArchiveOp.report?] at hreport
    split at hreport
    · rename_i report' archive' hrun
      obtain rfl := Option.some.inj hreport
      rw [ArchiveOp.step, final_of_ok hrun]
      exact (ends_finalize h hop.1 hop.2).of_ok hrun
    · simp at hreport

lemma inPlace_run (h : InPlace codec store runId archive) {ops : List ArchiveOp}
    (hops : ∀ op ∈ ops, op.Allowed codec store) :
    InPlace codec store runId (runAll ArchiveOp.step archive ops) := by
  have hguarded : Guarded ArchiveOp.step (fun _ op => op.Allowed codec store) archive ops :=
    guarded_of_forall_mem (fun op hop _ => hops op hop) archive
  exact hguarded.invariant (InPlace codec store runId) (fun _ _ h hop => inPlace_step h hop) h

end Runs

/-- At any time of a run that is inspected with a store on disk, every reference to evidence names a
file that is there from then on and records its attempt. A point succeeds only with evidence, and
every report that the processor returns is of an inspection that is over, with evidence that stays
there too. -/
theorem references_are_backed (codec : EvidenceCodec) (store : LocalJsonEvidenceStore)
    (runId robotId : String) (task : InspectionTask) (start : InspectionRunController)
    (hstart : init runId robotId task = .ok start) (files : FileSystem)
    (earlier later : List ArchiveOp) (hearlier : ∀ op ∈ earlier, op.Allowed codec store) :
    let archive := runAll ArchiveOp.step ⟨⟨start, []⟩, files⟩ earlier
    (∀ attempt ∈ archive.visit.controller.snapshot.attempts, ∀ reference,
      attempt.evidenceReference = some reference →
        Backed codec store runId (runAll ArchiveOp.step archive later).files attempt reference) ∧
    (archive.visit.controller.phase ∈ [.pointSucceeded, .succeeded] →
      archive.visit.controller.attempt.evidenceReference.isSome = true) ∧
    ∀ op : ArchiveOp, op.Allowed codec store → ∀ report, op.report? archive = some report →
      Evidences codec store runId (op.step archive).visit.controller.snapshot.attempts
        (runAll ArchiveOp.step (op.step archive) later).files report := by
  intro archive
  have hstarted : InPlace codec store runId ⟨⟨start, []⟩, files⟩ := sealed_init hstart files
  have hplace : InPlace codec store runId archive := inPlace_run hstarted hearlier
  refine ⟨fun attempt hattempt reference hreference => ?_, fun hphase => ?_, ?_⟩
  · have hdeposited := hplace.deposited attempt hattempt reference hreference
    exact (hdeposited.grows (grows_run archive later)).backed
  · have hfar : 7 ≤ progress archive.visit.controller.attempt.phase := by
      rw [phase] at hphase
      simp only [List.mem_cons, List.not_mem_nil, or_false] at hphase
      rcases hphase with h | h <;> rw [h] <;> decide
    exact (hplace.gathered.complete hfar).2
  · intro op hop report hreport
    exact (delivers_of_report hplace hop hreport).evidences (grows_run _ later)

def temperatureProcessor : StoringProcessor where
  acquire _ _ := .ok temperatureObservation
  evaluator := maximumThresholdRule "p0-temperature-maximum-rule" "1.0.0" 65
  codec := evidenceCodec
  evidenceStore := evidenceRoot

def temperatureVisit : List ArchiveOp :=
  [.operate .startNavigation, .operate (.recordNavigationResult true none),
    .operate (.confirmArrival true none), .operate (.completeStabilization true none),
    .process temperatureProcessor none 1100]

lemma temperature_visited : (runAll ArchiveOp.step ⟨⟨temperatureStart, []⟩, evidenceTree⟩
    temperatureVisit).visit.controller.phase = .succeeded := by
  decide +kernel

lemma temperature_allowed : ∀ op ∈ temperatureVisit, op.Allowed evidenceCodec evidenceRoot := by
  simp only [temperatureVisit, List.forall_mem_cons, List.not_mem_nil, false_imp_iff,
    implies_true, and_true]
  exact ⟨nofun, nofun, nofun, nofun, rfl, rfl⟩

theorem references_are_backed_temperature :
    ∃ archive reference,
      archive = runAll ArchiveOp.step ⟨⟨temperatureStart, []⟩, evidenceTree⟩ temperatureVisit ∧
      archive.visit.controller.attempt.evidenceReference = some reference ∧
      Backed evidenceCodec evidenceRoot "run-1"
        (runAll ArchiveOp.step archive [.elsewhere evidenceCodec evidenceRoot otherRunCall]).files
        archive.visit.controller.attempt.snapshot reference := by
  have hbacked := references_are_backed evidenceCodec evidenceRoot "run-1" "robot-1"
    temperatureTask temperatureStart temperature_started evidenceTree temperatureVisit
    [.elsewhere evidenceCodec evidenceRoot otherRunCall] temperature_allowed
  have hphase := temperature_visited
  generalize runAll ArchiveOp.step ⟨⟨temperatureStart, []⟩, evidenceTree⟩ temperatureVisit =
    archive at hbacked hphase ⊢
  obtain ⟨reference, hreference⟩ := Option.isSome_iff_exists.mp
    (hbacked.2.1 (by rw [hphase]; decide))
  exact ⟨archive, reference, rfl, hreference,
    hbacked.1 _ (current_mem_attempts _) reference hreference⟩

end Inspection
