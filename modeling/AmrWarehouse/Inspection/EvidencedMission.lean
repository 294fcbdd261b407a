import AmrWarehouse.Inspection.StoredMission

/-! An inspection that sent its goal leaves its evidence on disk, and one that did not leaves the
disk alone. -/

namespace Inspection

open Library InspectionRunController

variable {α : Type} {codec : EvidenceCodec} {store : LocalJsonEvidenceStore}
  {runId robotId : String} {fault : Option IoFault} {around : Wms.Surroundings}
  {options : NavOptions} {inspector : StoringInspector} {task : InspectionTask} {nowMs : ℤ}
  {stored : StoredOuting} {result : NavResult}

def Placed (codec : EvidenceCodec) (store : LocalJsonEvidenceStore) (runId : String)
    (stored : StoredOuting) : Prop :=
  InPlace codec store runId stored.archive

def ReportsEvidence (codec : EvidenceCodec) (store : LocalJsonEvidenceStore) (runId : String)
    (result : NavResult) (stored : StoredOuting) : Prop :=
  result.goalSent = true ∧ ∃ report, result.inspectionReport = some report ∧
    Evidences codec store runId stored.outing.visit.controller.snapshot.attempts stored.files
      report

section Steps

lemma ends_atOuting {call : EStateM NavError Outing α} {Q : α → StoredOuting → Prop}
    {E : StoredOuting → Prop} :
    Ends (atOuting call) stored Q E ↔ Ends call stored.outing
      (fun a outing => Q a { stored with outing := outing })
      (fun outing => E { stored with outing := outing }) := by
  rw [atOuting, ends_focus, ends_mapError]

lemma placed_operate (op : InspectionOp) (hop : ∀ reference, op ≠ .persistEvidence reference) :
    Preserves (Placed codec store runId) (atOuting (onVisit (onController op.call))) := by
  intro stored h
  rw [ends_atOuting, ends_onVisit, onController, ends_focus]
  refine (ends_call op).mono (fun _ c' hstep => h.advance hop hstep) (fun c' hsame => ?_)
  subst hsame
  exact h

lemma placed_enter (stage : Stage) :
    Preserves (Placed codec store runId) (atOuting (onVisit (enter stage))) :=
  fun _ h => h

lemma placed_orRaise (x : Except InspectionError α) :
    Preserves (Placed codec store runId) (atOuting (onVisit (orRaise x))) := by
  intro stored h
  cases x <;> exact h

lemma placed_onRuntime (call : Wms.Call Wms.Course α) :
    Preserves (Placed codec store runId) (atOuting (onRuntime call)) := by
  intro stored h
  rw [ends_atOuting, onRuntime, ends_focus]
  exact ends_self.mono (fun _ _ _ => h) (fun _ _ => h)

lemma ends_withStoredController {controller : InspectionRunController}
    {call : EStateM StoredNavError StoredOuting α} {mission : StoredMission}
    {Q : α → StoredMission → Prop} {E : StoredMission → Prop} :
    Ends (StoringInspector.withStoredController controller call) mission Q E ↔
      Ends call ⟨⟨mission.mission.course, ⟨controller, mission.mission.entered⟩⟩, mission.files⟩
        (fun a stored => Q a
          ⟨⟨stored.outing.course, stored.outing.visit.entered⟩, stored.files⟩)
        (fun stored => E ⟨⟨stored.outing.course, stored.outing.visit.entered⟩, stored.files⟩) := by
  simp only [Ends, StoringInspector.withStoredController, EStateM.run]
  cases call ⟨⟨mission.mission.course, ⟨controller, mission.mission.entered⟩⟩,
    mission.files⟩ <;> rfl

end Steps

section Stages

variable (hcodec : inspector.processor.codec = codec)
  (hstore : inspector.processor.evidenceStore = store)

include hcodec hstore

lemma ends_finishFailed_evidenced {message : String} (h : Placed codec store runId stored)
    (hsent : result.goalSent = true) :
    Ends (inspector.finishFailed fault nowMs result message) stored
      (ReportsEvidence codec store runId) (Placed codec store runId) := by
  rw [StoringInspector.finishFailed, ends_bind, atArchive, ends_focus, ends_mapError]
  refine (ends_finalize h hcodec hstore).mono (fun report archive' hends => ?_) (fun _ h => h)
  exact ⟨hsent, report, rfl, hends.evidences (FileSystem.Grows.refl _)⟩

lemma ends_stabilizeAndProcess_evidenced (h : Placed codec store runId stored)
    (hsent : result.goalSent = true) :
    Ends (inspector.stabilizeAndProcess fault task nowMs result) stored
      (ReportsEvidence codec store runId) (Placed codec store runId) := by
  refine Preserves.bind_ends (placed_enter _) h fun _ _ h => ?_
  refine Preserves.bind_ends (placed_orRaise _) h fun check _ h => ?_
  refine Preserves.bind_ends (placed_operate
    (.completeStabilization check.passed check.reason) (by simp)) h fun _ _ h => ?_
  split_ifs
  · rw [ends_bind, atArchive, ends_focus, ends_mapError]
    refine (ends_process h hcodec hstore).mono (fun report archive' hends => ?_) (fun _ h => h)
    exact ⟨hsent, report, rfl, hends.evidences (FileSystem.Grows.refl _)⟩
  · exact ends_finishFailed_evidenced hcodec hstore h hsent

lemma ends_verifyArrival_evidenced {navigation : Wms.NavigationResult}
    (h : Placed codec store runId stored) (hsent : result.goalSent = true) :
    Ends (inspector.verifyArrival fault task nowMs result navigation) stored
      (ReportsEvidence codec store runId) (Placed codec store runId) := by
  refine Preserves.bind_ends (placed_enter _) h fun _ _ h => ?_
  refine Preserves.bind_ends (placed_orRaise _) h fun check _ h => ?_
  refine Preserves.bind_ends (placed_operate
    (.confirmArrival check.passed check.reason) (by simp)) h fun _ _ h => ?_
  split_ifs
  · exact ends_stabilizeAndProcess_evidenced hcodec hstore h hsent
  · exact ends_finishFailed_evidenced hcodec hstore h hsent

lemma ends_navigateAndInspect_evidenced (h : Placed codec store runId stored) :
    Ends (inspector.navigateAndInspect around options fault task nowMs result) stored
      (ReportsEvidence codec store runId) (Placed codec store runId) := by
  refine Preserves.bind_ends (placed_operate .startNavigation (by simp)) h fun _ _ h => ?_
  refine Preserves.bind_ends (placed_enter _) h fun _ _ h => ?_
  refine Preserves.bind_ends (placed_onRuntime _) h fun navigation _ h => ?_
  refine Preserves.bind_ends (placed_operate
    (.recordNavigationResult navigation.succeeded navigation.reason) (by simp)) h fun _ _ h => ?_
  split_ifs
  · exact ends_verifyArrival_evidenced hcodec hstore h rfl
  · exact ends_finishFailed_evidenced hcodec hstore h rfl

/-- What an inspection leaves: evidence if its goal was sent, and the disk as it was if not. -/
structure Leaves (codec : EvidenceCodec) (store : LocalJsonEvidenceStore) (runId : String)
    (execute : Bool) (files : FileSystem) (result : NavResult) (files' : FileSystem) : Prop where
  sent : result.goalSent = true → ∃ report attempts, result.inspectionReport = some report ∧
    Evidences codec store runId attempts files' report
  unsent : result.goalSent = false →
    files' = files ∧ result.exitCode = if execute then 1 else 0

omit hcodec hstore in
lemma ends_checkGate {outing : Outing} :
    Ends (checkGate around options result) outing
      (fun checked outing' => checked.2.goalSent = result.goalSent ∧
        checked.2.exitCode = result.exitCode ∧
        outing'.visit.controller = outing.visit.controller)
      (fun _ => True) := by
  rw [checkGate, ends_bind, ends_onVisit, enter, ends_modify]
  split_ifs
  · rw [ends_bind, onRuntime, ends_focus]
    exact ends_self.mono (fun _ _ _ => ⟨rfl, rfl, rfl⟩) (fun _ _ => trivial)
  · rw [ends_bind, onRuntime, ends_focus]
    exact ends_self.mono (fun _ _ _ => ⟨rfl, rfl, rfl⟩) (fun _ _ => trivial)

omit hcodec hstore in
lemma ends_currentReport_evidenced {outing : Outing} {Q : InspectionReport → Outing → Prop}
    (hq : ∀ report, Q report outing) :
    Ends (currentReport task nowMs) outing Q (fun _ => True) := by
  rw [currentReport, ends_bind, ends_get, ends_onVisit]
  cases buildInspectionReport task outing.visit.controller.snapshot nowMs with
  | ok report => exact hq report
  | error e => trivial

lemma ends_inspectOnce_evidenced (h : Placed codec store runId stored)
    (hsent : result.goalSent = false) (hexit : result.exitCode = 0) :
    Ends (inspector.inspectOnce around options fault task nowMs result) stored
      (fun result' stored' => Leaves codec store runId options.execute stored.files result'
        stored'.files) (fun _ => True) := by
  rw [StoringInspector.inspectOnce, ends_bind, ends_atOuting]
  refine ends_checkGate.mono ?_ (fun _ _ => trivial)
  rintro ⟨readyGate, checked⟩ outing ⟨hsent', hexit', hcontroller⟩
  dsimp only at hsent' hexit' ⊢
  have hidle : ∀ result' : NavResult, result'.goalSent = checked.goalSent →
      result'.exitCode = (if options.execute = true then 1 else 0) →
      Leaves codec store runId options.execute stored.files result' stored.files := by
    intro result' hgoal hcode
    refine ⟨fun hgone => ?_, fun _ => ⟨rfl, hcode⟩⟩
    rw [hgoal, hsent', hsent] at hgone
    simp at hgone
  by_cases hready : readyGate.ready = false
  · rw [if_pos hready, ends_bind, ends_atOuting]
    exact ends_currentReport_evidenced fun report => hidle _ rfl rfl
  · rw [if_neg hready]
    by_cases hexecute : options.execute = false
    · rw [if_pos hexecute, ends_bind, ends_atOuting]
      refine ends_currentReport_evidenced fun report => hidle _ rfl ?_
      change checked.exitCode = _
      rw [hexit', hexit, hexecute]
      rfl
    · rw [if_neg hexecute]
      have hplaced : Placed codec store runId { stored with outing := outing } := by
        change Sealed codec store runId outing.visit.controller stored.files
        rw [hcontroller]
        exact h
      refine (ends_navigateAndInspect_evidenced hcodec hstore hplaced).mono ?_ (fun _ _ => trivial)
      rintro result' stored' ⟨hgoal, report, hreport, hevidences⟩
      refine ⟨fun _ => ⟨report, _, hreport, hevidences⟩, fun hunsent => ?_⟩
      rw [hgoal] at hunsent
      simp at hunsent

lemma ends_runInspectionNavOnce_evidenced {wallClockMs : ℤ} {mission : StoredMission} :
    Ends (inspector.runInspectionNavOnce around options fault task wallClockMs runId robotId)
      mission (fun result finish => Leaves codec store runId options.execute mission.files result
        finish.files) (fun _ => True) := by
  rw [StoringInspector.runInspectionNavOnce, ends_bind, ends_mapError]
  cases hinit : InspectionRunController.init runId robotId task with
  | error e => trivial
  | ok controller =>
    rw [ends_orRaise_ok, ends_withStoredController]
    refine ends_inspectOnce_evidenced hcodec hstore ?_ rfl rfl
    exact sealed_init hinit mission.files

end Stages

end Inspection
