import AmrWarehouse.Inspection.Pipeline
import AmrWarehouse.Inspection.ControllerSteps
import AmrWarehouse.Inspection.Evidence
import AmrWarehouse.Library.Refines

/-! The data path of an inspection point with its store of evidence on disk. -/

namespace Inspection

open Library

structure Archive where
  visit : Visit
  files : FileSystem

inductive PipelineError
  | inspection (e : InspectionError)
  | evidence (e : EvidenceError)
  deriving DecidableEq

def atVisit {α : Type} (call : Call Visit α) : EStateM PipelineError Archive α :=
  focus Archive.visit (fun visit archive => { archive with visit := visit })
    (mapError PipelineError.inspection call)

def atFiles {α : Type} (call : EStateM EvidenceError FileSystem α) :
    EStateM PipelineError Archive α :=
  focus Archive.files (fun files archive => { archive with files := files })
    (mapError PipelineError.evidence call)

/-- `InspectionPointProcessor` with the store it was made with. A call may meet one fault. -/
structure StoringProcessor where
  acquire : AcquisitionRequest → ℤ → Except InspectionError MockObservation
  evaluator : ObservationEvaluator
  codec : EvidenceCodec
  evidenceStore : LocalJsonEvidenceStore

namespace StoringProcessor

variable (processor : StoringProcessor) (fault : Option IoFault)

def persistCurrentAttempt : EStateM PipelineError Archive Unit := do
  let controller := (← get).visit.controller
  atVisit (enter .evidence)
  let evidence ← atFiles (processor.evidenceStore.persistAttempt processor.codec fault
    controller.runId controller.attempt.snapshot)
  atVisit (onController (InspectionRunController.persistEvidence evidence))

def buildReport (generatedAtMs : ℤ) : EStateM PipelineError Archive InspectionReport :=
  atVisit (InspectionPointProcessor.buildReport generatedAtMs)

def inspectObservation (observation : MockObservation) (nowMs : ℤ) :
    EStateM PipelineError Archive InspectionReport := do
  atVisit (onController (InspectionRunController.recordObservation observation))
  atVisit (enter .validation)
  let quality ← atVisit (onController (InspectionRunController.validateObservation nowMs))
  if quality.passed then
    atVisit (enter .evaluation)
    atVisit (discard (onController
      (InspectionRunController.evaluate (some processor.evaluator) (some nowMs))))
    processor.persistCurrentAttempt fault
    atVisit (onController InspectionRunController.completePoint)
    atVisit (onController InspectionRunController.completeRun)
    buildReport nowMs
  else
    processor.persistCurrentAttempt fault
    buildReport nowMs

def processCurrentAttempt (nowMs : ℤ) : EStateM PipelineError Archive InspectionReport := do
  let controller := (← get).visit.controller
  if controller.phase ≠ .acquiring then
    throw (.inspection ⟨.valueError, "InspectionPointProcessor requires ACQUIRING phase."⟩)
  else
    atVisit (enter .acquisition)
    match processor.acquire (InspectionPointProcessor.acquisitionRequest controller) nowMs with
    | .ok observation => processor.inspectObservation fault observation nowMs
    | .error e =>
      if e.kind = .other "InspectionAcquisitionError" then
        atVisit (onController (InspectionRunController.recordSensorFailure e.message))
        processor.persistCurrentAttempt fault
        buildReport nowMs
      else throw (.inspection e)

def finalizeCurrentFailure (nowMs : ℤ) : EStateM PipelineError Archive InspectionReport := do
  let controller := (← get).visit.controller
  if controller.phase ∉ InspectionPointProcessor.failurePhases then
    throw (.inspection ⟨.valueError, "Current inspection attempt is not in a failure phase."⟩)
  else
    whenever (controller.attempt.evidenceReference = none) (processor.persistCurrentAttempt fault)
    buildReport nowMs

end StoringProcessor

section Answers

variable {α : Type} {render : EvidenceError → InspectionError} {processor : StoringProcessor}
  {fault : Option IoFault} {answering : InspectionPointProcessor} {archive archive' : Archive}
  {nowMs : ℤ}

def PipelineError.seen (render : EvidenceError → InspectionError) :
    PipelineError → InspectionError
  | inspection e => e
  | evidence e => render e

def StoringProcessor.answer (processor : StoringProcessor)
    (render : EvidenceError → InspectionError) (fault : Option IoFault) (files : FileSystem)
    (runId : String) (attempt : PointAttemptSnapshot) : Except InspectionError EvidenceReference :=
  (outcome (processor.evidenceStore.persistAttempt processor.codec fault runId attempt)
    files).mapError render

/-- For the attempt at hand the processor acquires as the other one, and answers as its store does
on the files. -/
structure Answers (render : EvidenceError → InspectionError) (processor : StoringProcessor)
    (fault : Option IoFault) (request : AcquisitionRequest) (files : FileSystem)
    (answering : InspectionPointProcessor) : Prop where
  acquire : ∀ nowMs, answering.acquire request nowMs = processor.acquire request nowMs
  evaluator : answering.evaluator = processor.evaluator
  persistAttempt : ∀ attempt : PointAttemptSnapshot, attempt.attemptId = request.attemptId →
    answering.persistAttempt request.runId attempt =
      processor.answer render fault files request.runId attempt

def Archive.request (archive : Archive) : AcquisitionRequest :=
  InspectionPointProcessor.acquisitionRequest archive.visit.controller

lemma request_of_advance {op : InspectionOp} {c c' : InspectionRunController}
    (h : InspectionRunController.Advance c op c') (hop : op ≠ .retryPoint) :
    InspectionPointProcessor.acquisitionRequest c' =
      InspectionPointProcessor.acquisitionRequest c := by
  obtain ⟨hrun, hrobot, htask⟩ := h.identity
  rw [InspectionPointProcessor.acquisitionRequest, InspectionPointProcessor.acquisitionRequest,
    hrun, hrobot, htask, h.attemptId hop]

def SameRequest {α : Type} (call : Call Visit α) : Prop :=
  ∀ visit, Ends call visit
    (fun _ visit' => InspectionPointProcessor.acquisitionRequest visit'.controller =
      InspectionPointProcessor.acquisitionRequest visit.controller) (fun _ => True)

lemma sameRequest_enter (stage : Stage) : SameRequest (enter stage) := fun _ => rfl

lemma sameRequest_onController {call : Call InspectionRunController α} (op : InspectionOp)
    (hcall : ∀ c (Q : InspectionRunController → Prop) (E : InspectionRunController → Prop),
      Ends op.call c (fun _ => Q) E → Ends call c (fun _ => Q) E) (hop : op ≠ .retryPoint) :
    SameRequest (onController call) := by
  intro visit
  rw [onController, ends_focus]
  exact hcall _ _ _ ((InspectionRunController.ends_call op).mono
    (fun _ _ h => request_of_advance h hop) (fun _ _ => trivial))

lemma sameRequest_call (op : InspectionOp) (hop : op ≠ .retryPoint) :
    SameRequest (onController op.call) :=
  sameRequest_onController op (fun _ _ _ h => h) hop

lemma sameRequest_validate (nowMs : ℤ) :
    SameRequest (onController (InspectionRunController.validateObservation nowMs)) :=
  sameRequest_onController (.validateObservation nowMs) (fun _ _ _ h => ends_discard.mp h)
    (by simp)

lemma sameRequest_evaluate (evaluator : ObservationEvaluator) (nowMs : ℤ) :
    SameRequest (discard (onController
      (InspectionRunController.evaluate (some evaluator) (some nowMs)))) := by
  intro visit
  rw [ends_discard]
  exact sameRequest_onController (.evaluate (some evaluator) (some nowMs))
    (fun _ _ _ h => ends_discard.mp h) (by simp) visit

lemma Answers.atVisit {call : Call Visit α} {a : α}
    (h : Answers render processor fault archive.request archive.files answering)
    (hsame : SameRequest call) (hrun : (atVisit call).run archive = .ok a archive') :
    Answers render processor fault archive'.request archive'.files answering := by
  have hends : Ends (Inspection.atVisit call) archive (fun _ archive' =>
      archive'.request = archive.request ∧ archive'.files = archive.files) (fun _ => True) := by
    rw [Inspection.atVisit, ends_focus, ends_mapError]
    exact (hsame archive.visit).mono (fun _ _ h => ⟨h, rfl⟩) (fun _ _ => trivial)
  obtain ⟨hrequest, hfiles⟩ := hends.of_ok hrun
  rwa [hrequest, hfiles]

lemma refines_atVisit (call : Call Visit α) :
    Refines Archive.visit (PipelineError.seen render) (atVisit call) archive call :=
  refines_focus (fun _ _ => rfl) (fun _ => rfl) call archive

lemma refines_persistCurrentAttempt
    (h : Answers render processor fault archive.request archive.files answering) :
    Refines Archive.visit (PipelineError.seen render) (processor.persistCurrentAttempt fault)
      archive answering.persistCurrentAttempt := by
  refine refines_get_bind (Refines.bind (refines_atVisit _) fun _ entered hentered => ?_)
  refine Refines.bind ?_ fun _ _ _ => refines_atVisit _
  have hanswer : answering.persistAttempt archive.visit.controller.runId
      archive.visit.controller.attempt.snapshot = processor.answer render fault archive.files
        archive.visit.controller.runId archive.visit.controller.attempt.snapshot :=
    h.persistAttempt _ rfl
  have hfiles : entered.files = archive.files := by
    cases hentered
    rfl
  have houtcome : (outcome (atFiles (processor.evidenceStore.persistAttempt processor.codec fault
      archive.visit.controller.runId archive.visit.controller.attempt.snapshot)) entered).mapError
        (PipelineError.seen render) = processor.answer render fault archive.files
          archive.visit.controller.runId archive.visit.controller.attempt.snapshot := by
    rw [atFiles, outcome_focus, outcome_mapError, hfiles, StoringProcessor.answer]
    cases outcome (processor.evidenceStore.persistAttempt processor.codec fault
      archive.visit.controller.runId archive.visit.controller.attempt.snapshot)
      archive.files <;> rfl
  rw [hanswer, ← houtcome]
  exact refines_orRaise (by rw [atFiles, final_focus])

lemma refines_persistAndReport
    (h : Answers render processor fault archive.request archive.files answering) :
    Refines Archive.visit (PipelineError.seen render)
      (do processor.persistCurrentAttempt fault
          StoringProcessor.buildReport nowMs) archive
      (do answering.persistCurrentAttempt
          InspectionPointProcessor.buildReport nowMs) :=
  (refines_persistCurrentAttempt h).bind fun _ _ _ => refines_atVisit _

lemma refines_inspectObservation
    (h : Answers render processor fault archive.request archive.files answering)
    (observation : MockObservation) :
    Refines Archive.visit (PipelineError.seen render)
      (processor.inspectObservation fault observation nowMs) archive
      (answering.inspectObservation observation nowMs) := by
  refine (refines_atVisit _).bind fun _ recorded hrecorded => ?_
  have hrecorded :=
    h.atVisit (sameRequest_call (.recordObservation observation) (by simp)) hrecorded
  refine (refines_atVisit _).bind fun _ entered hentered => ?_
  have hentered := hrecorded.atVisit (sameRequest_enter _) hentered
  refine (refines_atVisit _).bind fun quality validated hvalidated => ?_
  have hvalidated := hentered.atVisit (sameRequest_validate nowMs) hvalidated
  refine refines_ite (fun hpassed => ?_) (fun _ => refines_persistAndReport hvalidated)
  refine (refines_atVisit _).bind fun _ entered hentered => ?_
  have hentered := hvalidated.atVisit (sameRequest_enter _) hentered
  rw [h.evaluator]
  refine (refines_atVisit _).bind fun _ evaluated hevaluated => ?_
  have hevaluated := hentered.atVisit (sameRequest_evaluate _ nowMs) hevaluated
  refine (refines_persistCurrentAttempt hevaluated).bind fun _ _ _ => ?_
  refine (refines_atVisit _).bind fun _ _ _ => ?_
  exact (refines_atVisit _).bind fun _ _ _ => refines_atVisit _

/-- With the files out of view, the processor with its store is the processor that is given the
answers of the store. -/
theorem refines_processCurrentAttempt
    (h : Answers render processor fault archive.request archive.files answering) :
    Refines Archive.visit (PipelineError.seen render) (processor.processCurrentAttempt fault nowMs)
      archive (answering.processCurrentAttempt nowMs) := by
  refine refines_get_bind (refines_ite (fun _ => refines_throw rfl) (fun _ => ?_))
  refine (refines_atVisit _).bind fun _ entered hentered => ?_
  have hentered := h.atVisit (sameRequest_enter _) hentered
  have hacquire := h.acquire nowMs
  rw [Archive.request] at hacquire
  rw [hacquire]
  cases processor.acquire
    (InspectionPointProcessor.acquisitionRequest archive.visit.controller) nowMs with
  | ok observation => exact refines_inspectObservation hentered observation
  | error e =>
    refine refines_ite (fun _ => ?_) (fun _ => refines_throw rfl)
    refine (refines_atVisit _).bind fun _ failed hfailed => ?_
    exact refines_persistAndReport
      (hentered.atVisit (sameRequest_call (.recordSensorFailure e.message) (by simp)) hfailed)

theorem refines_finalizeCurrentFailure
    (h : Answers render processor fault archive.request archive.files answering) :
    Refines Archive.visit (PipelineError.seen render) (processor.finalizeCurrentFailure fault nowMs)
      archive (answering.finalizeCurrentFailure nowMs) := by
  refine refines_get_bind (refines_ite (fun _ => refines_throw rfl) (fun _ => ?_))
  refine (refines_whenever fun _ => refines_persistCurrentAttempt h).bind fun _ _ _ => ?_
  exact refines_atVisit _

end Answers

end Inspection
