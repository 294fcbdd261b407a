import AmrWarehouse.Library.Keeps
import AmrWarehouse.Route.Executor

/-! What visiting the points of a route gives, one point after another. -/

namespace Route

open Library

def RouteState.record (state : RouteState) :
    Option InspectionStore × List (List String × FileContent) := (state.store, state.files)

def RouteState.progress (state : RouteState) : Option InspectionStore × ℕ :=
  (state.store, state.captures)

structure Accounted (runId : String) (point : InspectionPointSpec) (result : PointResult) :
    Prop where
  runId_eq : result.runId = runId
  pointId_eq : result.pointId = point.pointId
  sequence_eq : result.sequence = point.sequence
  path : Leads .pending (result.transitions.map TransitionEvent.status) result.status
  evaluated : result.status = .succeeded →
    result.evaluation = some .pass ∨ result.evaluation = some .warning
  unevaluated : result.status ≠ .succeeded → result.evaluation = none

def Visited (runId : String) (point : InspectionPointSpec) : Visit → Prop
  | .error result => Accounted runId point result ∧ result.status ≠ .succeeded
  | .ok result => Accounted runId point result ∧ result.status = .succeeded

/-- Results of the points of a route up to the first that fails. -/
inductive Covers (runId : String) : List InspectionPointSpec → List PointResult → Prop
  | done : Covers runId [] []
  | failed {point points result} (haccounted : Accounted runId point result)
      (hfailed : result.status ≠ .succeeded) : Covers runId (point :: points) [result]
  | next {point points result results} (haccounted : Accounted runId point result)
      (hsucceeded : result.status = .succeeded) (hrest : Covers runId points results) :
      Covers runId (point :: points) (result :: results)

def resultOf : Visit → PointResult
  | .ok result => result
  | .error result => result

structure Imageless (status : InspectionPointStatus) (reason : String) (visit : Visit) : Prop where
  observation_eq : (resultOf visit).observation = none
  status_eq : (resultOf visit).status = status
  reason_eq : (resultOf visit).reason = reason

/-- The result is what the image of the frame evaluates to. -/
structure Evaluates (codecs : Codecs) (options : RouteOptions) (point : InspectionPointSpec)
    (frame : CapturedImageFrame) (rgb : Bytes) (evaluation : VisualEvaluation)
    (result : PointResult) : Prop where
  decoded : decodeFrame frame = .ok rgb
  evaluated : evaluateRedRatio codecs rgb point.redRatioThreshold = .ok evaluation
  pointId_eq : result.pointId = point.pointId
  finding_eq : result.finding = some evaluation
  evaluation_eq : result.evaluation = some evaluation.finding
  observation_eq : ∃ artifactRef,
    result.observation = some (observationOf options point frame artifactRef evaluation)

/-- What a result may say about the image of its point. -/
structure Pictured (codecs : Codecs) (options : RouteOptions) (point : InspectionPointSpec)
    (frame : CapturedImageFrame) (result : PointResult) : Prop where
  observed : result.observation.isSome →
    ∃ rgb evaluation, Evaluates codecs options point frame rgb evaluation result
  seen : result.status = .succeeded → result.observation.isSome
  fresh : frame.acquisitionStartedAtNs < frame.capturedAtNs → result.status = .dataInvalid →
    result.reason ≠ "stale_image_not_newer_than_acquisition_start"

section Calls

variable (around : RouteSurroundings)

lemma keeps_utcNow : Keeps RouteState.progress (utcNow around) fun _ => True :=
  fun _ => ⟨rfl, trivial⟩

lemma keeps_timeNs : Keeps RouteState.progress (timeNs around) fun _ => True :=
  fun _ => ⟨rfl, trivial⟩

lemma keeps_onCourse {α : Type} (call : Wms.Call Wms.Course α) :
    Keeps RouteState.progress (onCourse call) fun _ => True := by
  intro state
  rw [onCourse, ends_mapError, ends_focus]
  exact ends_of_final (fun _ _ => ⟨rfl, trivial⟩) (fun _ => rfl)

lemma keeps_sleepFn (duration : Floating) :
    Keeps RouteState.progress (sleepFn around duration) fun _ => True := by
  cases duration with
  | finite duration =>
    rw [sleepFn]
    split_ifs
    · exact keeps_onCourse _
    · exact .throw _
  | infinite negative => exact .throw _
  | nan => exact .throw _

lemma keeps_checkCamera : Keeps RouteState.progress (checkCamera around) fun _ => True :=
  fun _ => ⟨rfl, trivial⟩

lemma keeps_captureFresh (timeoutSec : Floating) :
    Keeps RouteState.store (captureFresh around timeoutSec) fun _ => True := by
  intro state
  rw [captureFresh, ends_bind, ends_get, ends_bind, ends_set]
  exact (Keeps.orRaise fun _ _ => trivial) _

lemma keeps_writeFile (path : List String) (content : FileContent) :
    Keeps RouteState.progress (writeFile around path content) fun _ => True := by
  intro state
  rw [writeFile, ends_bind, ends_get, ends_bind, ends_set]
  split
  · rfl
  · exact ⟨rfl, trivial⟩

lemma keeps_writeJson (path : List String) (content : FileContent) :
    Keeps RouteState.progress (writeJson around path content) fun _ => True :=
  (keeps_writeFile around path content).bind fun _ _ => .pure trivial

lemma keeps_writeRgbPng (path : List String) (width height : ℤ) (rgb : Bytes) :
    Keeps RouteState.progress (writeRgbPng around path width height rgb) fun _ => True :=
  (Keeps.orRaise (P := fun _ => True) fun _ _ => trivial).bind fun _ _ =>
    (keeps_writeFile around path _).bind fun _ _ => .pure trivial

lemma keeps_store {α : Type} {m : Call RouteState α} {P : α → Prop}
    (h : Keeps RouteState.progress m P) : Keeps RouteState.store m P :=
  h.part Prod.fst fun _ => rfl

lemma status_of_transition {state state' : PointExecutionState} {status : InspectionPointStatus}
    {atNs : ℤ} {reason : Option String} (h : state.transition status atNs reason = .ok state') :
    state'.status = status := by
  rw [PointExecutionState.transition] at h
  split_ifs at h
  cases h
  rfl

lemma keeps_advance (state : PointExecutionState) (status : InspectionPointStatus)
    (reason : Option String) : Keeps RouteState.progress (advance around state status reason)
      fun state' => state'.status = status :=
  (keeps_timeNs around).bind fun _ _ => .orRaise fun _ => status_of_transition

end Calls

lemma decodeRow_error {bytesPerPixel width : ℕ} {channelOrder : List ℕ} {row : Bytes}
    {e : RouteError} (h : decodeRow bytesPerPixel channelOrder width row = .error e) :
    ∃ message, e = .indexError message := by
  rw [decodeRow] at h
  cases hpixels : (List.range width).mapM fun pixel =>
      channelOrder.mapM fun channel => byteAt row (pixel * bytesPerPixel + channel) with
  | ok pixels => simp [hpixels, bind, Except.bind, pure, Except.pure] at h
  | error e' =>
    simp only [hpixels, bind, Except.bind, Except.error.injEq] at h
    obtain ⟨pixel, -, hpixel⟩ := exists_of_mapM_error hpixels
    obtain ⟨channel, -, hchannel⟩ := exists_of_mapM_error hpixel
    rw [byteAt] at hchannel
    split at hchannel
    · cases hchannel
    · exact ⟨_, h ▸ (Except.error.inj hchannel).symm⟩

lemma decodeFrame_reason {frame : CapturedImageFrame} {reason : String}
    (hfresh : frame.acquisitionStartedAtNs < frame.capturedAtNs)
    (h : decodeFrame frame = .error (.invalidImage reason)) :
    reason ≠ "stale_image_not_newer_than_acquisition_start" := by
  rw [decodeFrame, if_neg (not_le.mpr hfresh), decodeRgbBytes] at h
  split at h
  · cases h
    intro hstale
    have hhead := congrArg (fun text => text.toList.head?) hstale
    simp only [String.toList_append, List.head?_append] at hhead
    have hhead' : (toString "unsupported_image_encoding:").toList.head? = some 'u' := rfl
    rw [hhead', Option.some_or] at hhead
    exact absurd hhead (by decide)
  · split_ifs at h
    · cases h
      decide
    · cases h
      decide
    · cases h
      decide
    · rename_i bytesPerPixel channelOrder _ _ _ _
      cases hrows : (List.range frame.height.toNat).mapM fun row =>
          decodeRow bytesPerPixel channelOrder frame.width.toNat
            ((frame.data.drop (row * frame.step.toNat)).take
              (frame.width.toNat * bytesPerPixel)) with
      | ok rows => simp [hrows, bind, Except.bind, pure, Except.pure] at h
      | error e =>
        obtain ⟨row, -, hrow⟩ := exists_of_mapM_error hrows
        obtain ⟨message, rfl⟩ := decodeRow_error hrow
        simp [hrows, bind, Except.bind] at h

section Visits

variable (around : RouteSurroundings) (options : RouteOptions) (point : InspectionPointSpec)
  (state : PointExecutionState) (nav : Wms.NavigationResult)

lemma keeps_failPoint {status : InspectionPointStatus} (hstatus : status ≠ .succeeded)
    (faultCode : InspectionFaultCode) (reason : String) (artifactRef : Option String) :
    Keeps RouteState.progress
      (failPoint around options point state nav status faultCode reason artifactRef)
      fun visit => Visited options.runId point visit ∧ Imageless status reason visit := by
  refine (keeps_advance around state status _).bind fun state' hstate' => .pure ?_
  have hfailed : state'.status ≠ .succeeded := hstate' ▸ hstatus
  exact ⟨⟨⟨rfl, rfl, rfl, state'.path, fun h => (hfailed h).elim, fun _ => rfl⟩, hfailed⟩,
    rfl, hstate', rfl⟩

lemma Imageless.pictured {options : RouteOptions} {point : InspectionPointSpec}
    {status : InspectionPointStatus} {reason : String} {visit : Visit} {codecs : Codecs}
    {frame : CapturedImageFrame} (h : Imageless status reason visit) (hstatus : status ≠ .succeeded)
    (hreason : frame.acquisitionStartedAtNs < frame.capturedAtNs → status = .dataInvalid →
      reason ≠ "stale_image_not_newer_than_acquisition_start") :
    Pictured codecs options point frame (resultOf visit) := by
  refine ⟨?_, fun hsucceeded => absurd (h.status_eq.symm.trans hsucceeded) hstatus, ?_⟩
  · simp [h.observation_eq]
  · rw [h.status_eq, h.reason_eq]
    exact hreason

lemma finding_of_evaluate {codecs : Codecs} {rgb : Bytes} {threshold : Floating}
    {evaluation : VisualEvaluation} (h : evaluateRedRatio codecs rgb threshold = .ok evaluation) :
    evaluation.finding = .pass ∨ evaluation.finding = .warning := by
  rw [evaluateRedRatio] at h
  split_ifs at h
  · cases h
    dsimp only
    split_ifs <;> simp

lemma keeps_evaluateImage (frame : CapturedImageFrame) {rgb : Bytes}
    (hrgb : decodeFrame frame = .ok rgb) :
    Keeps RouteState.progress (evaluateImage around options point state nav frame rgb)
      fun visit => Visited options.runId point visit ∧
        Pictured around.codecs options point frame (resultOf visit) := by
  refine (keeps_writeRgbPng around _ _ _ _).bind fun imageSha256 _ => ?_
  refine (keeps_advance around state _ _).bind fun evaluating _ => ?_
  split
  · refine (keeps_failPoint around options point _ nav (by decide) _ _ _).mono ?_
    rintro visit ⟨hvisited, himageless⟩
    exact ⟨hvisited, himageless.pictured (by decide) fun _ hinvalid => by cases hinvalid⟩
  · rename_i evaluation hevaluation
    refine (keeps_advance around evaluating _ _).bind fun finished hfinished => ?_
    refine (keeps_writeJson around _ _).discard.bind fun _ _ => .pure ⟨?_, ?_⟩
    · refine ⟨⟨rfl, rfl, rfl, finished.path, fun _ => ?_, fun h => (h hfinished).elim⟩, hfinished⟩
      exact (finding_of_evaluate hevaluation).imp (congrArg some) (congrArg some)
    · refine ⟨fun _ => ⟨rgb, evaluation, hrgb, hevaluation, rfl, rfl, rfl, _, rfl⟩,
        fun _ => rfl, fun _ hinvalid => ?_⟩
      rw [resultOf, hfinished] at hinvalid
      cases hinvalid

lemma keeps_examineFrame (frame : CapturedImageFrame) :
    Keeps RouteState.progress (examineFrame around options point state nav frame)
      fun visit => Visited options.runId point visit ∧
        Pictured around.codecs options point frame (resultOf visit) := by
  refine (keeps_advance around state _ _).bind fun validating _ => ?_
  split
  · rename_i reason hreason
    refine (keeps_failPoint around options point _ nav (by decide) _ _ _).mono ?_
    rintro visit ⟨hvisited, himageless⟩
    refine ⟨hvisited, himageless.pictured (by decide) fun hfresh _ => ?_⟩
    exact decodeFrame_reason hfresh hreason
  · exact .throw _
  · rename_i rgb hrgb
    exact keeps_evaluateImage around options point _ nav frame hrgb

lemma keeps_refused {status : InspectionPointStatus} (hstatus : status ≠ .succeeded)
    (faultCode : InspectionFaultCode) (reason : String) (artifactRef : Option String) :
    Keeps RouteState.store
      (failPoint around options point state nav status faultCode reason artifactRef)
      (Visited options.runId point) :=
  (keeps_store (keeps_failPoint around options point state nav hstatus _ _ _)).mono fun _ h => h.1

lemma keeps_acquireImage :
    Keeps RouteState.store (acquireImage around options point state nav)
      (Visited options.runId point) := by
  refine (keeps_store (keeps_advance around state _ _)).bind fun arrived _ => ?_
  refine (keeps_store (keeps_advance around arrived _ _)).bind fun stabilizing _ => ?_
  refine (keeps_store (keeps_sleepFn around _)).bind fun _ _ => ?_
  refine (keeps_store (keeps_advance around stabilizing _ _)).bind fun acquiring _ => ?_
  refine (keeps_captureFresh around _).attempt.bind fun captured _ => ?_
  split
  · exact keeps_refused around options point _ nav (by decide) _ _ _
  · exact keeps_refused around options point _ nav (by decide) _ _ _
  · exact .throw _
  · exact (keeps_store (keeps_examineFrame around options point _ nav _)).mono fun _ h => h.1

lemma keeps_visitPoint :
    Keeps RouteState.store (visitPoint around options point) (Visited options.runId point) := by
  refine (keeps_store (keeps_advance around _ _ _)).bind fun navigating _ => ?_
  refine (keeps_store (keeps_onCourse _)).bind fun nav _ => ?_
  split_ifs
  · exact keeps_acquireImage around options point _ nav
  · exact keeps_refused around options point _ nav (by decide) _ _ _

lemma keeps_visitPoints (points : List InspectionPointSpec) :
    Keeps RouteState.store (visitPoints around options points) (Covers options.runId points) := by
  induction points with
  | nil => exact .pure .done
  | cons point points ih =>
    refine (keeps_visitPoint around options point).bind fun visit hvisit => ?_
    cases visit with
    | error result => exact .pure (.failed hvisit.1 hvisit.2)
    | ok result => exact ih.bind fun results hresults => .pure (.next hvisit.1 hvisit.2 hresults)

end Visits

section Covers

variable {runId : String} {points : List InspectionPointSpec} {results : List PointResult}

lemma Covers.begins (h : Covers runId points results) :
    results.map (fun result => (result.pointId, result.sequence)) <+:
      points.map fun point => (point.pointId, point.sequence) := by
  induction h with
  | done => exact List.prefix_rfl
  | failed haccounted _ =>
    rw [List.map_cons, List.map_cons, haccounted.pointId_eq, haccounted.sequence_eq]
    exact (List.prefix_cons_inj _).mpr List.nil_prefix
  | next haccounted _ _ ih =>
    rw [List.map_cons, List.map_cons, haccounted.pointId_eq, haccounted.sequence_eq]
    exact (List.prefix_cons_inj _).mpr ih

lemma Covers.accounted (h : Covers runId points results) {result : PointResult}
    (hresult : result ∈ results) : ∃ point ∈ points, Accounted runId point result := by
  induction h with
  | done => simp at hresult
  | @failed point _ _ haccounted _ =>
    rw [List.mem_singleton.mp hresult]
    exact ⟨point, List.mem_cons_self, haccounted⟩
  | @next point _ _ _ haccounted _ _ ih =>
    rcases List.mem_cons.mp hresult with rfl | hresult
    · exact ⟨point, List.mem_cons_self, haccounted⟩
    · obtain ⟨point, hpoint, hother⟩ := ih hresult
      exact ⟨point, List.mem_cons_of_mem _ hpoint, hother⟩

lemma Covers.succeeded_of_later (h : Covers runId points results)
    {before after : List PointResult} {result : PointResult}
    (hresults : results = before ++ result :: after) (hafter : after ≠ []) :
    result.status = .succeeded := by
  induction h generalizing before with
  | done => simp at hresults
  | failed =>
    cases before with
    | nil =>
      cases hresults
      exact (hafter rfl).elim
    | cons _ before => simp at hresults
  | next _ hsucceeded _ ih =>
    cases before with
    | nil =>
      cases hresults
      exact hsucceeded
    | cons _ before =>
      cases hresults
      exact ih rfl

lemma Covers.length_eq (h : Covers runId points results)
    (hall : ∀ result ∈ results, result.status = .succeeded) : results.length = points.length := by
  induction h with
  | done => rfl
  | failed _ hfailed => exact (hfailed (hall _ List.mem_cons_self)).elim
  | next _ _ _ ih =>
    rw [List.length_cons, List.length_cons,
      ih fun result hresult => hall result (List.mem_cons_of_mem _ hresult)]

lemma Covers.stopped (h : Covers runId points results) {before : List PointResult}
    {result : PointResult} (hresults : results = before ++ [result])
    (hsucceeded : result.status = .succeeded) : results.length = points.length := by
  apply h.length_eq
  intro other hother
  rw [hresults] at hother
  rcases List.mem_append.mp hother with hbefore | hlast
  · obtain ⟨front, back, rfl⟩ := List.append_of_mem hbefore
    have hlater : results = front ++ other :: (back ++ [result]) := by simp [hresults]
    exact h.succeeded_of_later hlater (by simp)
  · rw [List.mem_singleton.mp hlast]
    exact hsucceeded

end Covers

end Route
