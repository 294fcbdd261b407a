import AmrWarehouse.Inspection.EvidencedMission
import AmrWarehouse.Inspection.StoreRoom

/-! The inspection command, from its arguments to its exit code. -/

namespace Inspection

open Library

def requireNonEmpty : (fields : List (String × String)) →
    Except InspectionError (PLift (∀ value ∈ fields.map Prod.snd, Filled value))
  | [] => .ok ⟨by simp⟩
  | (fieldName, value) :: fields =>
    if h : Filled value then do
      let ⟨hfields⟩ ← requireNonEmpty fields
      return ⟨List.forall_mem_cons.mpr ⟨h, hfields⟩⟩
    else .error ⟨.valueError, s!"{fieldName} must not be empty."⟩

def inspectionItem (itemId kind : String) (maximumValue : Floating) :
    Except InspectionError InspectionItem := do
  let ⟨hfilled⟩ ← requireNonEmpty [("item_id", itemId), ("kind", kind)]
  match maximumValue with
  | .finite maximumValue =>
    return {
      itemId := itemId
      kind := kind
      maximumValue := maximumValue
      itemId_filled := hfilled itemId (by simp)
      kind_filled := hfilled kind (by simp) }
  | _ => throw ⟨.valueError, "maximum_value must be finite."⟩

def inspectionPoint (pointId : String) (pose : Wms.Pose) (maximumObservationAgeMs : ℤ)
    (item : InspectionItem) : Except InspectionError InspectionPoint := do
  let ⟨hfilled⟩ ← requireNonEmpty [("point_id", pointId), ("frame_id", pose.frameId)]
  match pose.x, pose.y, pose.yaw with
  | .finite x, .finite y, .finite yaw =>
    if hage : 0 ≤ maximumObservationAgeMs then
      return {
        pointId := pointId
        frameId := pose.frameId
        x := x
        y := y
        yaw := yaw
        maximumObservationAgeMs := maximumObservationAgeMs
        item := item
        pointId_filled := hfilled pointId (by simp)
        frameId_filled := hfilled pose.frameId (by simp)
        age_nonneg := hage }
    else throw ⟨.valueError, "maximum_observation_age_ms must not be negative."⟩
  | _, _, _ => throw ⟨.valueError, "point pose values must be finite."⟩

def inspectionTask (taskId routeId priority : String) (point : InspectionPoint) :
    Except InspectionError InspectionTask := do
  let ⟨hfilled⟩ ← requireNonEmpty
    [("task_id", taskId), ("route_id", routeId), ("priority", priority)]
  return {
    taskId := taskId
    routeId := routeId
    priority := priority
    point := point
    taskId_filled := hfilled taskId (by simp)
    routeId_filled := hfilled routeId (by simp)
    priority_filled := hfilled priority (by simp) }

def buildInspectionTask (taskId targetName : String) (file : Except Wms.WmsError Wms.TaskPoints)
    (maximumObservationAgeMs : ℤ) (maximumValue : Floating) : Except NavError InspectionTask :=
  match Wms.resolveTargetPose targetName file with
  | .error e => .error (.runtime e)
  | .ok (resolvedName, pose) => Except.mapError NavError.inspection do
    let item ← inspectionItem s!"{resolvedName}-temperature" "temperature" maximumValue
    let point ← inspectionPoint resolvedName pose maximumObservationAgeMs item
    inspectionTask taskId s!"p0-single-point:{resolvedName}" "normal" point

structure MockReading where
  value : Floating
  capturedAtMs : ℤ
  complete : Bool := true

structure DeterministicMockAcquisition where
  readings : List MockReading
  sensorId : String := "mock-temperature-sensor"
  calibrationVersion : String := "mock-calibration-v1"

def DeterministicMockAcquisition.acquire (acquisition : DeterministicMockAcquisition)
    (nextIndex : ℕ) (request : AcquisitionRequest) (receivedAtMs : ℤ) :
    Except InspectionError MockObservation :=
  match acquisition.readings[nextIndex]? with
  | none => .error ⟨.other "InspectionAcquisitionError", "mock_reading_exhausted"⟩
  | some reading => do
    let observationId := s!"{request.attemptId}:observation"
    let ⟨hfilled⟩ ← requireNonEmpty [("observation_id", observationId),
      ("item_id", request.point.item.itemId), ("robot_id", request.robotId),
      ("point_id", request.point.pointId), ("sensor_id", acquisition.sensorId),
      ("frame_id", request.point.frameId),
      ("calibration_version", acquisition.calibrationVersion), ("source", "mock")]
    return {
      observationId := observationId
      itemId := request.point.item.itemId
      robotId := request.robotId
      pointId := request.point.pointId
      sensorId := acquisition.sensorId
      frameId := request.point.frameId
      capturedAtMs := reading.capturedAtMs
      receivedAtMs := receivedAtMs
      value := reading.value
      calibrationVersion := acquisition.calibrationVersion
      complete := reading.complete
      source := "mock"
      filled := hfilled }

def makeMaximumThresholdRule (evaluatorId version : String) (maximumValue : Floating) :
    Except InspectionError ObservationEvaluator := do
  let _ ← requireNonEmpty [("evaluator_id", evaluatorId), ("version", version)]
  match maximumValue with
  | .finite maximumValue => return maximumThresholdRule evaluatorId version maximumValue
  | _ => throw ⟨.valueError, "maximum_value must be finite."⟩

/-- The arguments of the command, with the defaults of its parser. -/
structure NavArguments where
  taskId : String := "inspection-task-p0"
  runId : String := "inspection-run-p0"
  robotId : String := "amr-1"
  targetName : String := "station_a"
  mockValue : Floating := .finite 60
  maximumValue : Floating := .finite 65
  maximumObservationAgeMs : ℤ := 500
  evidenceDir : PosixPath := ⟨["tmp", "amr_warehouse_inspection_evidence"], by decide⟩
  execute : Bool := false
  readyTimeoutSec : ℚ := 60
  readyPollIntervalSec : ℚ := 2
  navigationTimeoutSec : Floating := 180

def NavArguments.options (args : NavArguments) (timestampMs : ℤ) : NavOptions where
  execute := args.execute
  readyTimeoutSec := args.readyTimeoutSec
  readyPollIntervalSec := args.readyPollIntervalSec
  navigationTimeoutSec := args.navigationTimeoutSec
  nowMs := some timestampMs

def navProcessor (args : NavArguments) (timestampMs : ℤ) (evaluator : ObservationEvaluator)
    (codec : EvidenceCodec) (evidenceStore : LocalJsonEvidenceStore) : StoringProcessor where
  acquire := DeterministicMockAcquisition.acquire
    { readings := [{ value := args.mockValue, capturedAtMs := timestampMs }] } 0
  evaluator := evaluator
  codec := codec
  evidenceStore := evidenceStore

/-- `main`, up to what it prints: the exit code. -/
def navMain (around : Wms.Surroundings) (codec : EvidenceCodec) (fault : Option IoFault)
    (timestampMs : ℤ) (args : NavArguments) : EStateM StoredNavError StoredMission ℕ := do
  let task ← mapError StoredNavError.nav (orRaise (buildInspectionTask args.taskId args.targetName
    around.file args.maximumObservationAgeMs args.maximumValue))
  let evaluator ← mapError (fun e => StoredNavError.nav (.inspection e))
    (orRaise (makeMaximumThresholdRule "p0-temperature-maximum-rule" "1.0.0" args.maximumValue))
  let evidenceStore ← focus StoredMission.files (fun files stored => { stored with files := files })
    (mapError StoredNavError.evidence (LocalJsonEvidenceStore.create args.evidenceDir))
  let result ← StoringInspector.runInspectionNavOnce around (args.options timestampMs)
    { processor := navProcessor args timestampMs evaluator codec evidenceStore } fault task
    timestampMs args.runId args.robotId (Wms.timeSleep around)
  return result.exitCode

section Arguments

variable {taskId targetName : String} {file : Except Wms.WmsError Wms.TaskPoints}
  {maximumObservationAgeMs : ℤ} {maximumValue : Floating} {task : InspectionTask}

lemma requireNonEmpty_ok {fields : List (String × String)}
    (h : ∀ value ∈ fields.map Prod.snd, Filled value) : requireNonEmpty fields = .ok ⟨h⟩ := by
  induction fields with
  | nil => rfl
  | cons field fields ih =>
    obtain ⟨hvalue, hfields⟩ := List.forall_mem_cons.mp h
    rw [requireNonEmpty, dif_pos hvalue, ih hfields]
    rfl

lemma inspectionItem_ok {itemId kind : String} {item : InspectionItem}
    (h : inspectionItem itemId kind maximumValue = .ok item) :
    maximumValue = .finite item.maximumValue := by
  rw [inspectionItem] at h
  cases hfields : requireNonEmpty [("item_id", itemId), ("kind", kind)] with
  | error e => simp [hfields, bind, Except.bind] at h
  | ok hfilled =>
    cases maximumValue with
    | finite value =>
      simp only [hfields, bind, Except.bind, pure, Except.pure, Except.ok.injEq] at h
      rw [← h]
    | infinite | nan => simp [hfields, bind, Except.bind, throw, throwThe, MonadExceptOf.throw] at h

lemma inspectionPoint_ok {pointId : String} {pose : Wms.Pose} {item : InspectionItem}
    {point : InspectionPoint}
    (h : inspectionPoint pointId pose maximumObservationAgeMs item = .ok point) :
    point.pointId = pointId ∧ point.item = item ∧
      pose = ⟨point.frameId, .finite point.x, .finite point.y, .finite point.yaw⟩ := by
  obtain ⟨frameId, x, y, yaw⟩ := pose
  rw [inspectionPoint] at h
  cases hfields : requireNonEmpty [("point_id", pointId), ("frame_id", frameId)] with
  | error e => simp [hfields, bind, Except.bind] at h
  | ok hfilled =>
    simp only [hfields, bind, Except.bind, pure, Except.pure, throw, throwThe,
      MonadExceptOf.throw] at h
    split at h
    · split_ifs at h
      obtain rfl := Except.ok.inj h
      simp_all
    · simp at h

lemma inspectionTask_ok {routeId priority : String} {point : InspectionPoint}
    (h : inspectionTask taskId routeId priority point = .ok task) : task.point = point := by
  rw [inspectionTask] at h
  cases hfields : requireNonEmpty
      [("task_id", taskId), ("route_id", routeId), ("priority", priority)] with
  | error e => simp [hfields, bind, Except.bind] at h
  | ok hfilled =>
    simp only [hfields, bind, Except.bind, pure, Except.pure, Except.ok.injEq] at h
    rw [← h]

structure BuiltFrom (targetName : String) (file : Except Wms.WmsError Wms.TaskPoints)
    (maximumValue : Floating) (task : InspectionTask) : Prop where
  target : Wms.resolveTargetPose targetName file = .ok (task.point.pointId, resolvedPoseOf task)
  limit : maximumValue = .finite task.point.item.maximumValue

lemma buildInspectionTask_ok (h : buildInspectionTask taskId targetName file
      maximumObservationAgeMs maximumValue = .ok task) :
    BuiltFrom targetName file maximumValue task := by
  rw [buildInspectionTask] at h
  cases hresolve : Wms.resolveTargetPose targetName file with
  | error e => simp [hresolve] at h
  | ok found =>
    obtain ⟨resolvedName, pose⟩ := found
    simp only [hresolve, bind, Except.bind] at h
    cases hitem : inspectionItem s!"{resolvedName}-temperature" "temperature" maximumValue with
    | error e => simp [hitem, Except.mapError] at h
    | ok item =>
      cases hpoint : inspectionPoint resolvedName pose maximumObservationAgeMs item with
      | error e => simp [hitem, hpoint, Except.mapError] at h
      | ok point =>
        cases htask : inspectionTask taskId s!"p0-single-point:{resolvedName}" "normal" point with
        | error e => simp [hitem, hpoint, htask, Except.mapError] at h
        | ok task' =>
          simp only [hitem, hpoint, htask, Except.mapError, Except.ok.injEq] at h
          subst h
          obtain ⟨hname, hsame, hpose⟩ := inspectionPoint_ok hpoint
          obtain rfl := inspectionTask_ok htask
          refine ⟨?_, ?_⟩
          · rw [hresolve, hname, hpose]
            rfl
          · rw [inspectionItem_ok hitem, hsame]

lemma safeComponent_of_supported {name : String} (h : name ∈ Wms.supportedTargetNames) :
    SafeComponent name := by
  simp only [Wms.supportedTargetNames, List.mem_cons, List.not_mem_nil, or_false] at h
  rcases h with rfl | rfl | rfl | rfl | rfl | rfl <;> decide

lemma BuiltFrom.supported (h : BuiltFrom targetName file maximumValue task) :
    task.point.pointId ∈ Wms.supportedTargetNames := by
  obtain ⟨points, -, -, hpose⟩ := Wms.resolveTargetPose_ok.mp h.target
  exact (Wms.poseOf_ok hpose).1

end Arguments

section Acquisition

variable {args : NavArguments} {timestampMs : ℤ} {task : InspectionTask} {runId robotId : String}

structure ReadFor (args : NavArguments) (timestampMs : ℤ) (request : AcquisitionRequest)
    (receivedAtMs : ℤ) (observation : MockObservation) : Prop where
  item : observation.itemId = request.point.item.itemId
  robot : observation.robotId = request.robotId
  point : observation.pointId = request.point.pointId
  frame : observation.frameId = request.point.frameId
  captured : observation.capturedAtMs = timestampMs
  received : observation.receivedAtMs = receivedAtMs
  value : observation.value = args.mockValue
  complete : observation.complete = true

lemma filled_observationId (attemptId : String) : Filled s!"{attemptId}:observation" := by
  refine filled_iff.mpr ⟨':', ?_, by decide⟩
  simp [toString]

lemma exists_reading (args : NavArguments) (timestampMs : ℤ) (evaluator : ObservationEvaluator)
    (codec : EvidenceCodec) (store : LocalJsonEvidenceStore) (request : AcquisitionRequest)
    (hrobot : Filled request.robotId) (receivedAtMs : ℤ) :
    ∃ observation, (navProcessor args timestampMs evaluator codec store).acquire request
        receivedAtMs = .ok observation ∧
      ReadFor args timestampMs request receivedAtMs observation := by
  have hfilled : ∀ value ∈ List.map Prod.snd
      [("observation_id", s!"{request.attemptId}:observation"),
        ("item_id", request.point.item.itemId), ("robot_id", request.robotId),
        ("point_id", request.point.pointId), ("sensor_id", "mock-temperature-sensor"),
        ("frame_id", request.point.frameId), ("calibration_version", "mock-calibration-v1"),
        ("source", "mock")], Filled value := by
    simp only [List.map_cons, List.map_nil, List.forall_mem_cons]
    exact ⟨filled_observationId _, request.point.item.itemId_filled, hrobot,
      request.point.pointId_filled, by decide, request.point.frameId_filled, by decide, by decide,
      by simp⟩
  cases hread : (navProcessor args timestampMs evaluator codec store).acquire request
      receivedAtMs with
  | error e =>
    simp [navProcessor, DeterministicMockAcquisition.acquire, requireNonEmpty_ok hfilled, bind,
      Except.bind, pure, Except.pure] at hread
  | ok observation =>
    simp only [navProcessor, DeterministicMockAcquisition.acquire, List.getElem?_cons_zero,
      requireNonEmpty_ok hfilled, bind, Except.bind, pure, Except.pure, Except.ok.injEq] at hread
    subst hread
    exact ⟨_, rfl, rfl, rfl, rfl, rfl, rfl, rfl, rfl, rfl⟩

lemma passed_of_reading {observation : MockObservation}
    (h : ReadFor args timestampMs
      (InspectionPointProcessor.acquisitionRequest (startedController task runId robotId))
      timestampMs observation) :
    ((startedController task runId robotId).qualityOf observation timestampMs).passed =
      args.mockValue.isFinite := by
  have hage := task.point.age_nonneg
  rw [InspectionRunController.qualityOf, h.item, h.robot, h.point, h.frame, h.captured, h.received,
    h.value, h.complete]
  cases hfinite : args.mockValue.isFinite with
  | true => simp [QualityResult.passed, InspectionPointProcessor.acquisitionRequest,
      startedController, not_lt.mpr hage]
  | false => simp [QualityResult.passed]

end Acquisition

section Command

variable {around : Wms.Surroundings} {codec : EvidenceCodec} {store : LocalJsonEvidenceStore}
  {args : NavArguments} {timestampMs : ℤ} {task : InspectionTask} {files : FileSystem}
  {start : StoredMission} {limit : ℚ}

def commandProcessor (args : NavArguments) (timestampMs : ℤ) (limit : ℚ) (codec : EvidenceCodec)
    (store : LocalJsonEvidenceStore) : StoringProcessor :=
  navProcessor args timestampMs (maximumThresholdRule "p0-temperature-maximum-rule" "1.0.0" limit)
    codec store

def refusal (_ : EvidenceError) : InspectionError := ⟨.other "EvidenceError", ""⟩

def StoringProcessor.goingOn (processor : StoringProcessor) (files : FileSystem) :
    InspectionPointProcessor where
  acquire request receivedAtMs :=
    match processor.acquire request receivedAtMs with
    | .ok observation => .ok observation
    | .error _ => .error ⟨.other "InspectionAcquisitionError", ""⟩
  evaluator := processor.evaluator
  persistAttempt runId attempt :=
    match processor.answer refusal none files runId attempt with
    | .ok reference => .ok reference
    | .error _ => .ok (evidenceReference processor.codec .top [])

lemma answers_goingOn {processor : StoringProcessor} {request : AcquisitionRequest}
    (hacquire : ∀ nowMs, ∃ observation, processor.acquire request nowMs = .ok observation)
    (hroom : Room processor.evidenceStore request.runId request.attemptId files)
    (hrun : SafeComponent request.runId) (hattempt : SafeComponent request.attemptId) :
    Answers refusal processor none request files (processor.goingOn files) where
  acquire nowMs := by
    obtain ⟨observation, hobservation⟩ := hacquire nowMs
    simp only [StoringProcessor.goingOn, hobservation]
  evaluator := rfl
  persistAttempt attempt hid := by
    have hpersists : ∃ files', (processor.evidenceStore.persistAttempt processor.codec none
        request.runId attempt).run files = .ok _ files' :=
      exists_run_persistAttempt (by rwa [hid]) hrun (by rwa [hid])
    obtain ⟨files', hpersist⟩ := hpersists
    simp only [StoringProcessor.goingOn, StoringProcessor.answer, outcome, hpersist,
      Except.mapError]

def commandInspector (args : NavArguments) (timestampMs : ℤ) (limit : ℚ) (codec : EvidenceCodec)
    (store : LocalJsonEvidenceStore) (files : FileSystem) : Inspector :=
  StoringInspector.answered { processor := commandProcessor args timestampMs limit codec store }
    ((commandProcessor args timestampMs limit codec store).goingOn files)

lemma answers_command (hrun : SafeComponent args.runId) (hrobot : Filled args.robotId)
    (hpoint : SafeComponent task.point.pointId)
    (hroom : Room store args.runId (attemptIdOf args.runId task.point.pointId 1) files) :
    Answers refusal (commandProcessor args timestampMs limit codec store) none
      (InspectionPointProcessor.acquisitionRequest
        (startedController task args.runId args.robotId)) files
      ((commandProcessor args timestampMs limit codec store).goingOn files) := by
  refine answers_goingOn (fun nowMs => ?_) hroom hrun (safeComponent_attemptIdOf hrun hpoint 1)
  obtain ⟨observation, hobservation, -⟩ := exists_reading args timestampMs
    (maximumThresholdRule "p0-temperature-maximum-rule" "1.0.0" limit) codec store
    (InspectionPointProcessor.acquisitionRequest (startedController task args.runId args.robotId))
    hrobot nowMs
  exact ⟨observation, hobservation⟩

lemma works_command (hlimit : task.point.item.maximumValue = limit) :
    (commandInspector args timestampMs limit codec store files).Works task where
  arrival := by simp [commandInspector, StoringInspector.answered]
  stabilization := by simp [commandInspector, StoringInspector.answered]
  acquisition request receivedAtMs e h := by
    simp only [commandInspector, StoringInspector.answered, StoringProcessor.goingOn] at h
    split at h
    · simp at h
    · obtain rfl := Except.error.inj h
      rfl
  evaluation observation findingId evaluatedAtMs := by
    subst hlimit
    exact ⟨_, rfl, rfl⟩
  evidence runId attempt := by
    simp only [commandInspector, StoringInspector.answered, StoringProcessor.goingOn]
    split
    · exact ⟨_, rfl⟩
    · exact ⟨_, rfl⟩

lemma checks_command {navigation : Wms.NavigationResult} (hrobot : Filled args.robotId) :
    (∀ check ∈ stageChecks (commandInspector args timestampMs limit codec store files) task
      args.runId args.robotId timestampMs navigation, check.2 = true) ↔
      navigation.succeeded = true ∧ args.mockValue.isFinite = true := by
  obtain ⟨observation, hobservation, hread⟩ := exists_reading args timestampMs
    (maximumThresholdRule "p0-temperature-maximum-rule" "1.0.0" limit) codec store
    (InspectionPointProcessor.acquisitionRequest (startedController task args.runId args.robotId))
    hrobot timestampMs
  have hacquire : (commandInspector args timestampMs limit codec store files).processor.acquire
      (InspectionPointProcessor.acquisitionRequest (startedController task args.runId args.robotId))
      timestampMs = .ok observation := by
    simp only [commandInspector, StoringInspector.answered, StoringProcessor.goingOn,
      commandProcessor, hobservation]
  have hpassed := passed_of_reading hread
  have harrival : (commandInspector args timestampMs limit codec store files).arrivalVerifier =
      none := rfl
  have hstabilizer : (commandInspector args timestampMs limit codec store files).stabilizer =
      none := rfl
  simp [stageChecks, arrivalChecks, stabilizationChecks, acquisitionChecks, hacquire, hpassed,
    harrival, hstabilizer, passes, deterministicArrivalVerifier, deterministicStabilizer]

lemma makeMaximumThresholdRule_ok {maximumValue : Floating} (h : maximumValue = .finite limit) :
    makeMaximumThresholdRule "p0-temperature-maximum-rule" "1.0.0" maximumValue =
      .ok (maximumThresholdRule "p0-temperature-maximum-rule" "1.0.0" limit) := by
  have hfilled : ∀ value ∈ List.map Prod.snd [("evaluator_id", "p0-temperature-maximum-rule"),
      ("version", "1.0.0")], Filled value := by
    decide
  rw [h, makeMaximumThresholdRule, requireNonEmpty_ok hfilled]
  rfl

/-- How the command ends where it returns: nothing was sent and nothing stored, or the robot was
sent to the target and inspected there, and the report has evidence on disk. -/
inductive CommandEnds (around : Wms.Surroundings) (codec : EvidenceCodec)
    (store : LocalJsonEvidenceStore) (args : NavArguments) (files : FileSystem)
    (start : Mission) : ℕ → StoredMission → Prop
  | idle {exitCode finish} (hsent : finish.mission.course.sent = start.course.sent)
    (hfiles : finish.files = files) (hexit : exitCode = if args.execute then 1 else 0) :
    CommandEnds around codec store args files start exitCode finish
  | inspected {exitCode finish} (hexecute : args.execute = true)
    (name pose navigation report attempts)
    (htarget : Wms.resolveTargetPose args.targetName around.file = .ok (name, pose))
    (hsent : finish.mission.course.sent = start.course.sent ++ [pose])
    (hnavigation : around.runtime.navigations start.course.sent.length = .ok navigation)
    (hexit : exitCode = 0 ↔ navigation.succeeded = true ∧ args.mockValue.isFinite = true)
    (hcompletion : exitCode = 0 ↔ report.completion = .succeeded)
    (hevidences : Evidences codec store args.runId attempts finish.files report) :
    CommandEnds around codec store args files start exitCode finish

lemma ends_inspect_command (hruntime : around.runtime.Responds) (hrun : SafeComponent args.runId)
    (hrobot : Filled args.robotId)
    (hbuilt : BuiltFrom args.targetName around.file args.maximumValue task)
    (hlimit : task.point.item.maximumValue = limit)
    (hroom : Room store args.runId (attemptIdOf args.runId task.point.pointId 1) start.files) :
    Ends (StoringInspector.runInspectionNavOnce around (args.options timestampMs)
        { processor := commandProcessor args timestampMs limit codec store } none task timestampMs
        args.runId args.robotId) start
      (fun result finish => CommandEnds around codec store args start.files start.mission
        result.exitCode finish)
      (fun _ => False) := by
  have hrefines : Refines StoredMission.mission (StoredNavError.seen refusal)
      (StoringInspector.runInspectionNavOnce around (args.options timestampMs)
        { processor := commandProcessor args timestampMs limit codec store } none task timestampMs
        args.runId args.robotId) start
      (runInspectionNavOnce around timestampMs (args.options timestampMs)
        (commandInspector args timestampMs limit codec store start.files) task args.runId
        args.robotId) :=
    refines_runInspectionNavOnce (answers_command hrun hrobot
      (safeComponent_of_supported hbuilt.supported) hroom)
  have haccount := hrefines.ends (inspection_is_accounted_for around hruntime
    (commandInspector args timestampMs limit codec store start.files) task (works_command hlimit)
    timestampMs (args.options timestampMs) args.runId args.robotId start.mission)
  have hleaves : Ends (StoringInspector.runInspectionNavOnce around (args.options timestampMs)
        { processor := commandProcessor args timestampMs limit codec store } none task timestampMs
        args.runId args.robotId) start
      (fun result finish => Leaves codec store args.runId (args.options timestampMs).execute
        start.files result finish.files) (fun _ => True) :=
    ends_runInspectionNavOnce_evidenced rfl rfl
  refine (haccount.and hleaves).mono ?_ ?_
  · rintro result finish ⟨⟨hexecute, hdry⟩, hleft⟩
    have hmode_of_not : ¬ args.execute = true → (args.options timestampMs).execute = false :=
      Bool.eq_false_of_not_eq_true
    by_cases hsent : result.goalSent = true
    · by_cases hmode : args.execute = true
      · have hcounted := hexecute hmode
        obtain ⟨navigation, report, attempt, hnavigation, -, hreport, -, -, -, -, hexit, -,
          hchecks⟩ := hcounted.inspected hsent
        obtain ⟨report', attempts, hreport', hevidences⟩ := hleft.sent hsent
        obtain rfl : report = report' := Option.some.inj (hreport.symm.trans hreport')
        refine .inspected hmode task.point.pointId (resolvedPoseOf task) navigation report attempts
          hbuilt.target ?_ hnavigation ?_ hexit hevidences
        · rw [hcounted.goals, if_pos hsent]
        · rw [hexit, hchecks]
          exact checks_command hrobot
      · have hidle := hdry (hmode_of_not hmode)
        rw [hidle.1] at hsent
        simp at hsent
    · have hunsent : result.goalSent = false := by simpa using hsent
      obtain ⟨hfiles, hexit⟩ := hleft.unsent hunsent
      refine .idle ?_ hfiles hexit
      by_cases hmode : args.execute = true
      · rw [(hexecute hmode).goals, if_neg hsent, List.append_nil]
      · exact (hdry (hmode_of_not hmode)).2.1
  · rintro finish ⟨⟨-, hblank⟩, -⟩
    rcases hblank with hblank | hblank
    · exact hblank (filled_of_safe hrun)
    · exact hblank hrobot

lemma runInspectionNavOnce_timeSleep {options : NavOptions} {inspector : StoringInspector}
    {fault : Option IoFault} {wallClockMs : ℤ} {runId robotId : String}
    (h : Wms.Brief options.readyTimeoutSec options.readyPollIntervalSec) :
    inspector.runInspectionNavOnce around options fault task wallClockMs runId robotId
        (Wms.timeSleep around) =
      inspector.runInspectionNavOnce around options fault task wallClockMs runId robotId := by
  have hgate : ∀ result : NavResult, checkGate around options result (Wms.timeSleep around) =
      checkGate around options result := by
    intro result
    rw [checkGate, checkGate, Wms.waitForExecuteReadyGate_timeSleep h]
  simp only [StoringInspector.runInspectionNavOnce, StoringInspector.inspectOnce, hgate]

lemma ends_navMain (hruntime : around.runtime.Responds) (hrun : SafeComponent args.runId)
    (hfresh : ∀ store files,
      (LocalJsonEvidenceStore.create args.evidenceDir).run start.files = .ok store files →
        (files.node (store.directoryPlace args.runId) = none ∨
          files.node (store.directoryPlace args.runId) = some .directory) ∧
        ∀ pointId ∈ Wms.supportedTargetNames,
          files.node (store.artifactPlace args.runId (attemptIdOf args.runId pointId 1)) = none ∧
            (store.artifactPath args.runId (attemptIdOf args.runId pointId 1)).Fits)
    (hbrief : Wms.Brief args.readyTimeoutSec args.readyPollIntervalSec) :
    Ends (navMain around codec none timestampMs args) start
      (fun exitCode finish => ∃ store files,
        (LocalJsonEvidenceStore.create args.evidenceDir).run start.files = .ok store files ∧
        CommandEnds around codec store args files start.mission exitCode finish)
      (fun finish => finish.mission = start.mission) := by
  rw [navMain, ends_bind, ends_mapError]
  cases htask : buildInspectionTask args.taskId args.targetName around.file
      args.maximumObservationAgeMs args.maximumValue with
  | error e => exact rfl
  | ok task =>
    have hbuilt := buildInspectionTask_ok htask
    rw [ends_orRaise_ok, ends_bind, ends_mapError, makeMaximumThresholdRule_ok hbuilt.limit,
      ends_orRaise_ok, ends_bind, ends_focus, ends_mapError, Ends]
    cases hcreate : (LocalJsonEvidenceStore.create args.evidenceDir).run start.files with
    | error e files => exact rfl
    | ok store files =>
      dsimp only
      obtain ⟨hdirectory, hvacant⟩ := hfresh store files hcreate
      have hattempt := safeComponent_attemptIdOf hrun
        (safeComponent_of_supported hbuilt.supported) 1
      have hroom := room_of_create hcreate hrun hattempt hdirectory
        (hvacant _ hbuilt.supported).1 (hvacant _ hbuilt.supported).2
      rw [ends_bind, runInspectionNavOnce_timeSleep hbrief]
      by_cases hrobot : Filled args.robotId
      · refine (ends_inspect_command hruntime hrun hrobot hbuilt rfl hroom).mono ?_ ?_
        · intro result finish hends
          rw [ends_pure]
          exact ⟨store, files, rfl, hends⟩
        · exact fun _ hfalse => hfalse.elim
      · rw [StoringInspector.runInspectionNavOnce, InspectionRunController.init,
          if_neg (not_not.mpr (filled_of_safe hrun)), if_pos hrobot]
        exact rfl

/-- With a run id that can name files, no evidence of the run on disk and no sleep that is too long,
the command either fails before the robot is sent anywhere, or ends as it should. -/
theorem navMain_accounted (around : Wms.Surroundings) (hruntime : around.runtime.Responds)
    (codec : EvidenceCodec) (timestampMs : ℤ) (args : NavArguments)
    (hrun : SafeComponent args.runId) (start : StoredMission)
    (hfresh : ∀ store files,
      (LocalJsonEvidenceStore.create args.evidenceDir).run start.files = .ok store files →
        (files.node (store.directoryPlace args.runId) = none ∨
          files.node (store.directoryPlace args.runId) = some .directory) ∧
        ∀ pointId ∈ Wms.supportedTargetNames,
          files.node (store.artifactPlace args.runId (attemptIdOf args.runId pointId 1)) = none ∧
            (store.artifactPath args.runId (attemptIdOf args.runId pointId 1)).Fits)
    (hbrief : Wms.Brief args.readyTimeoutSec args.readyPollIntervalSec) :
    (∀ exitCode finish, (navMain around codec none timestampMs args).run start =
        .ok exitCode finish → ∃ store files,
      (LocalJsonEvidenceStore.create args.evidenceDir).run start.files = .ok store files ∧
        CommandEnds around codec store args files start.mission exitCode finish) ∧
    ∀ e finish, (navMain around codec none timestampMs args).run start = .error e finish →
      finish.mission = start.mission :=
  have hends := ends_navMain hruntime hrun hfresh hbrief
  ⟨fun _ _ hreturns => hends.of_ok hreturns, fun _ _ hraises => hends.of_error hraises⟩

def defaultArguments : NavArguments := { execute := true }

def blankDisk : StoredMission := ⟨{}, FileSystem.empty⟩

lemma default_fresh (store : LocalJsonEvidenceStore) (files : FileSystem)
    (h : (LocalJsonEvidenceStore.create defaultArguments.evidenceDir).run blankDisk.files =
      .ok store files) :
    (files.node (store.directoryPlace defaultArguments.runId) = none ∨
      files.node (store.directoryPlace defaultArguments.runId) = some .directory) ∧
    ∀ pointId ∈ Wms.supportedTargetNames,
      files.node (store.artifactPlace defaultArguments.runId
        (attemptIdOf defaultArguments.runId pointId 1)) = none ∧
      (store.artifactPath defaultArguments.runId
        (attemptIdOf defaultArguments.runId pointId 1)).Fits := by
  obtain ⟨hroot, -⟩ := directory_of_create h
  obtain rfl : store = ⟨defaultArguments.evidenceDir.resolved, fun _ h => (mem_resolve h).2⟩ := by
    cases store
    cases hroot
    rfl
  obtain rfl := final_of_ok h
  exact ⟨Or.inl (by decide +kernel), by decide +kernel⟩

theorem navMain_accounted_default :
    ∃ exitCode finish store files,
      (navMain (Wms.willingSurroundings (.integer 1)) evidenceCodec none 1100 defaultArguments).run
        blankDisk = .ok exitCode finish ∧
      (LocalJsonEvidenceStore.create defaultArguments.evidenceDir).run blankDisk.files =
        .ok store files ∧
      CommandEnds (Wms.willingSurroundings (.integer 1)) evidenceCodec store defaultArguments files
        blankDisk.mission exitCode finish := by
  have hreturns : raises (navMain (Wms.willingSurroundings (.integer 1)) evidenceCodec none 1100
      defaultArguments) blankDisk = false := by
    decide +kernel
  obtain ⟨exitCode, finish, hrun⟩ := exists_of_returns hreturns
  obtain ⟨store, files, hcreate, hends⟩ := (navMain_accounted (Wms.willingSurroundings (.integer 1))
    Wms.willingRuntime_responds evidenceCodec 1100 defaultArguments (by decide) blankDisk
    default_fresh (Or.inl (by decide +kernel))).1 exitCode finish hrun
  exact ⟨exitCode, finish, store, files, hrun, hcreate, hends⟩

end Command

end Inspection
