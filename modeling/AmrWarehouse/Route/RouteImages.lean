import AmrWarehouse.Route.FreshImages
import AmrWarehouse.Route.Accounting

/-! The images of a route taken with the camera node: every one was stamped after the robot stood
at its point, and no image serves two points. -/

namespace Route

open Library

section Camera

variable (world : RosWorld) (topic : String) (lead : ℕ) (gaps : ℕ → ℕ) (timeoutSec : Floating)

/-- The preflight check and the first captures of a route, with the gap before the next one. -/
def cameraCalls : ℕ → List CameraOp
  | 0 => [.idle lead, .checkReady 2]
  | n + 1 => cameraCalls n ++ [.idle (gaps n), .captureFresh timeoutSec]

def beforeCapture (n : ℕ) : CaptureState :=
  cameraAfter world topic (cameraCalls lead gaps timeoutSec n ++ [.idle (gaps n)])

def rosImageCapture : ImageCapture where
  topic := topic
  checks _ :=
    match outcome (RosImageCapture.checkReady world 2) (cameraAfter world topic [.idle lead]) with
    | .ok answer => answer
    | .error e => (false, e.text)
  captures n :=
    outcome (RosImageCapture.captureFresh world topic timeoutSec)
      (beforeCapture world topic lead gaps timeoutSec n)

def RouteSurroundings.withCamera (around : RouteSurroundings) (imageCapture : ImageCapture) :
    RouteSurroundings :=
  { around with imageCapture := imageCapture }

variable {world topic lead gaps timeoutSec}

lemma beforeCapture_succ (n : ℕ) :
    beforeCapture world topic lead gaps timeoutSec (n + 1) =
      runAll (CameraOp.step world topic)
        (final (RosImageCapture.captureFresh world topic timeoutSec)
          (beforeCapture world topic lead gaps timeoutSec n)) [.idle (gaps (n + 1))] := by
  rw [beforeCapture, beforeCapture, cameraAfter, cameraAfter, cameraCalls, runAll_append,
    runAll_append, runAll_append]
  rfl

lemma onward_beforeCapture (hwall : StrictMono world.timeNs) (n : ℕ) :
    RosImageCapture.Onward world (beforeCapture world topic lead gaps timeoutSec n)
      (beforeCapture world topic lead gaps timeoutSec n) :=
  onward_cameraAfter hwall _

lemma onward_capture (hwall : StrictMono world.timeNs) (n : ℕ) :
    RosImageCapture.Onward world
      (final (RosImageCapture.captureFresh world topic timeoutSec)
        (beforeCapture world topic lead gaps timeoutSec n))
      (beforeCapture world topic lead gaps timeoutSec (n + 1)) := by
  rw [beforeCapture_succ]
  refine onward_run hwall ⟨le_rfl, le_rfl, ?_⟩ _
  exact (onward_after hwall (onward_beforeCapture hwall n) (.captureFresh timeoutSec)).held

lemma onward_next (hwall : StrictMono world.timeNs) (n : ℕ) :
    RosImageCapture.Onward world (beforeCapture world topic lead gaps timeoutSec n)
      (beforeCapture world topic lead gaps timeoutSec (n + 1)) :=
  (onward_after hwall (onward_beforeCapture hwall n) (.captureFresh timeoutSec)).trans
    (onward_capture hwall n)

lemma monotone_moment (hwall : StrictMono world.timeNs) :
    Monotone fun n => (beforeCapture world topic lead gaps timeoutSec n).moment :=
  monotone_nat_of_le_succ fun n => (onward_next hwall n).moment

lemma monotone_spins (hwall : StrictMono world.timeNs) :
    Monotone fun n => (beforeCapture world topic lead gaps timeoutSec n).spins :=
  monotone_nat_of_le_succ fun n => (onward_next hwall n).spins

lemma within_capture (hwall : StrictMono world.timeNs) (hros : Monotone world.rosNow) {n : ℕ}
    {frame : CapturedImageFrame}
    (h : (rosImageCapture world topic lead gaps timeoutSec).captures n = .ok frame) :
    Within world topic (beforeCapture world topic lead gaps timeoutSec n)
      (beforeCapture world topic lead gaps timeoutSec (n + 1)) frame := by
  have hwithin := within_captureFresh hwall hros (onward_beforeCapture hwall n) h
  exact hwithin.of_onward hwall hros le_rfl le_rfl (onward_capture hwall n).moment
    (onward_capture hwall n).spins

end Camera

section Visits

variable (around : RouteSurroundings) (options : RouteOptions) (route : List InspectionPointSpec)
  (point : InspectionPointSpec) (state : PointExecutionState) (nav : Wms.NavigationResult)

def Shows (result : PointResult) (n : ℕ) : Prop :=
  ∃ frame, around.imageCapture.captures n = .ok frame ∧ ∃ point ∈ route, ∃ rgb evaluation,
    Evaluates around.codecs options point frame rgb evaluation result

structure Sighted (result : PointResult) : Prop where
  seen : result.status = .succeeded → result.observation.isSome
  notStale : result.status = .dataInvalid →
    result.reason ≠ "stale_image_not_newer_than_acquisition_start"

def Fresh (imageCapture : ImageCapture) : Prop :=
  ∀ n frame, imageCapture.captures n = .ok frame →
    frame.acquisitionStartedAtNs < frame.capturedAtNs

def pictured (results : List PointResult) : List PointResult :=
  results.filter fun result => result.observation.isSome

lemma pictured_of_seen {result : PointResult} (h : result.observation.isSome)
    (results : List PointResult) : pictured (result :: results) = result :: pictured results :=
  List.filter_cons_of_pos h

lemma pictured_of_unseen {result : PointResult} (h : result.observation = none)
    (results : List PointResult) : pictured (result :: results) = pictured results :=
  List.filter_cons_of_neg (by simp [h])

def Pictures (first : ℕ) (results : List PointResult) (routeState : RouteState) : Prop :=
  Numbered (Shows around options route) first routeState.captures (pictured results) ∧
    ∀ result ∈ results, Sighted result

variable {around options route point state nav}

lemma pictures_of_unseen {first : ℕ} {result : PointResult} {routeState : RouteState}
    (hcaptures : first ≤ routeState.captures) (hnone : result.observation = none)
    (hsighted : Sighted result) : Pictures around options route first [result] routeState := by
  refine ⟨?_, List.forall_mem_singleton.mpr hsighted⟩
  rw [pictured_of_unseen hnone]
  exact .nil hcaptures

lemma pictures_of_pictured {n : ℕ} {frame : CapturedImageFrame} {result : PointResult}
    {routeState : RouteState} (hpoint : point ∈ route)
    (h : Pictured around.codecs options point frame result) (hfresh : Fresh around.imageCapture)
    (hframe : around.imageCapture.captures n = .ok frame)
    (hcaptures : routeState.captures = n + 1) :
    Pictures around options route n [result] routeState := by
  have hsighted : Sighted result := ⟨h.seen, h.fresh (hfresh n frame hframe)⟩
  cases hobservation : result.observation with
  | none => exact pictures_of_unseen (by omega) hobservation hsighted
  | some observation =>
    have hseen : result.observation.isSome := by rw [hobservation, Option.isSome_some]
    obtain ⟨rgb, evaluation, hevaluates⟩ := h.observed hseen
    refine ⟨?_, List.forall_mem_singleton.mpr hsighted⟩
    rw [pictured_of_seen hseen, hcaptures]
    exact .singleton le_rfl (Nat.lt_succ_self n)
      ⟨frame, hframe, point, hpoint, rgb, evaluation, hevaluates⟩

lemma Pictures.append {first : ℕ} {results later : List PointResult}
    {routeState after : RouteState} (h : Pictures around options route first results routeState)
    (h' : Pictures around options route routeState.captures later after) :
    Pictures around options route first (results ++ later) after := by
  refine ⟨?_, List.forall_mem_append.mpr ⟨h.2, h'.2⟩⟩
  rw [pictured, List.filter_append]
  exact h.1.append h'.1

variable (around options point state nav)

lemma ends_failPoint {first : ℕ} {routeState : RouteState}
    (hcaptures : first ≤ routeState.captures) {status : InspectionPointStatus}
    (hstatus : status ≠ .succeeded) (hvalid : status ≠ .dataInvalid)
    (faultCode : InspectionFaultCode) (reason : String) (artifactRef : Option String) :
    Ends (failPoint around options point state nav status faultCode reason artifactRef) routeState
      (fun visit after => Pictures around options route first [resultOf visit] after)
      (fun _ => True) := by
  apply (keeps_failPoint around options point state nav hstatus _ _ _ _).mono
  · rintro visit after ⟨hsame, -, himageless⟩
    have hcaptures' : after.captures = routeState.captures := congrArg Prod.snd hsame
    refine pictures_of_unseen (hcaptures' ▸ hcaptures) himageless.observation_eq ⟨?_, ?_⟩
    · exact fun hsucceeded => absurd (himageless.status_eq.symm.trans hsucceeded) hstatus
    · exact fun hinvalid => absurd (himageless.status_eq.symm.trans hinvalid) hvalid
  · exact fun _ _ => trivial

lemma ends_attempt_captureFresh (timeoutSec : Floating) {routeState : RouteState}
    {Q : Except RouteError CapturedImageFrame → RouteState → Prop} {E : RouteState → Prop} :
    Ends (attempt (captureFresh around timeoutSec)) routeState Q E ↔
      Q (around.imageCapture.captures routeState.captures)
        { routeState with captures := routeState.captures + 1 } := by
  rw [Ends, run_attempt]
  have hrun : (captureFresh around timeoutSec).run routeState =
      (orRaise (around.imageCapture.captures routeState.captures)).run
        { routeState with captures := routeState.captures + 1 } := rfl
  rw [hrun]
  cases around.imageCapture.captures routeState.captures <;> rfl

lemma ends_after {α β : Type} {call : Call RouteState α} {P : α → Prop}
    (hcall : Keeps RouteState.progress call P) {next : α → Call RouteState β}
    {routeState : RouteState} {Q : ℕ → β → RouteState → Prop}
    (hnext : ∀ a after, Ends (next a) after (Q after.captures) fun _ => True) :
    Ends (call >>= next) routeState (Q routeState.captures) (fun _ => True) := by
  rw [ends_bind]
  refine (hcall routeState).mono ?_ (fun _ _ => trivial)
  rintro a after ⟨hsame, -⟩
  have hcaptures : after.captures = routeState.captures := congrArg Prod.snd hsame
  exact hcaptures ▸ hnext a after

lemma ends_acquireImage (hpoint : point ∈ route) (hfresh : Fresh around.imageCapture)
    (routeState : RouteState) :
    Ends (acquireImage around options point state nav) routeState
      (fun visit => Pictures around options route routeState.captures [resultOf visit])
      (fun _ => True) := by
  set Q := fun n visit => Pictures around options route n [resultOf visit]
  refine ends_after (keeps_advance around state _ _) (Q := Q) fun arrived s₁ => ?_
  refine ends_after (keeps_advance around arrived _ _) (Q := Q) fun stabilizing s₂ => ?_
  refine ends_after (keeps_sleepFn around _) (Q := Q) fun _ s₃ => ?_
  refine ends_after (keeps_advance around stabilizing _ _) (Q := Q) fun acquiring s₄ => ?_
  rw [ends_bind, ends_attempt_captureFresh]
  set s₅ : RouteState := { s₄ with captures := s₄.captures + 1 }
  have hlater : s₄.captures ≤ s₅.captures := Nat.le_succ s₄.captures
  cases hframe : around.imageCapture.captures s₄.captures with
  | error e =>
    cases e with
    | cameraUnavailable reason =>
      exact ends_failPoint around options point _ nav hlater (by decide) (by decide) _ _ _
    | imageTimeout reason =>
      exact ends_failPoint around options point _ nav hlater (by decide) (by decide) _ _ _
    | _ => trivial
  | ok frame =>
    refine (keeps_examineFrame around options point acquiring nav frame s₅).mono ?_
      (fun _ _ => trivial)
    rintro visit s₆ ⟨hsame, -, hpictured⟩
    exact pictures_of_pictured hpoint hpictured hfresh hframe (congrArg Prod.snd hsame)

lemma ends_visitPoint (hpoint : point ∈ route) (hfresh : Fresh around.imageCapture)
    (routeState : RouteState) :
    Ends (visitPoint around options point) routeState
      (fun visit => Pictures around options route routeState.captures [resultOf visit])
      (fun _ => True) := by
  set Q := fun n visit => Pictures around options route n [resultOf visit]
  refine ends_after (keeps_advance around _ _ _) (Q := Q) fun navigating s₁ => ?_
  refine ends_after (keeps_onCourse _) (Q := Q) fun nav s₂ => ?_
  split_ifs
  · exact ends_acquireImage around options point navigating nav hpoint hfresh s₂
  · exact ends_failPoint around options point navigating nav le_rfl (by decide) (by decide) _ _ _

lemma ends_visitPoints (hfresh : Fresh around.imageCapture) {points : List InspectionPointSpec}
    (hpoints : points ⊆ route) (routeState : RouteState) :
    Ends (visitPoints around options points) routeState
      (fun results => Pictures around options route routeState.captures results)
      (fun _ => True) := by
  induction points generalizing routeState with
  | nil => exact ⟨.nil le_rfl, by simp⟩
  | cons point points ih =>
    obtain ⟨hpoint, hrest⟩ := List.cons_subset.mp hpoints
    rw [visitPoints, ends_bind]
    refine (ends_visitPoint around options point hpoint hfresh routeState).mono ?_
      (fun _ _ => trivial)
    rintro visit s₁ hfirst
    cases visit with
    | error result => exact hfirst
    | ok result =>
      rw [ends_bind]
      exact (ih hrest s₁).mono (fun results s₂ hlater => hfirst.append hlater) (fun _ _ => trivial)

end Visits

section Runs

variable (around : RouteSurroundings) (options : RouteOptions)

lemma ends_trivial {α : Type} (call : Call RouteState α) (state : RouteState) :
    Ends call state (fun _ _ => True) (fun _ => True) :=
  ends_of_final (fun _ _ => trivial) (fun _ => trivial)

lemma ends_persisted (result : PointResult) (state : RouteState) :
    Ends (persistResult around options result) state (fun result' _ => Referenced result result')
      (fun _ => True) := by
  rw [persistResult]
  split
  · rw [ends_bind]
    exact (ends_trivial _ _).mono (fun _ _ _ => ⟨_, rfl⟩) (fun _ _ => trivial)
  · dsimp only
    rw [ends_bind]
    refine (ends_trivial _ _).mono (fun _ _ _ => ?_) (fun _ _ => trivial)
    rw [ends_bind]
    exact (ends_trivial _ _).mono (fun _ _ _ => ⟨_, rfl⟩) (fun _ _ => trivial)

lemma ends_allPersisted (results : List PointResult) (state : RouteState) :
    Ends (results.mapM (persistResult around options)) state
      (fun results' _ => List.Forall₂ Referenced results results') (fun _ => True) := by
  refine ends_mapM (fun seen persisted _ => List.Forall₂ Referenced seen persisted) .nil ?_
  rintro seen persisted result rest state' - href
  exact (ends_persisted around options result state').mono
    (fun _ _ hfirst => List.rel_append href (.cons hfirst .nil)) (fun _ _ => trivial)

lemma Shows.referenced {around : RouteSurroundings} {options : RouteOptions}
    {route : List InspectionPointSpec} {result result' : PointResult} {n : ℕ}
    (h : Shows around options route result n) (href : Referenced result result') :
    Shows around options route result' n := by
  obtain ⟨resultRef, rfl⟩ := href
  obtain ⟨frame, hframe, point, hpoint, rgb, evaluation, he⟩ := h
  exact ⟨frame, hframe, point, hpoint, rgb, evaluation, he.decoded, he.evaluated, he.pointId_eq,
    he.finding_eq, he.evaluation_eq, he.observation_eq⟩

lemma pictured_referenced {results results' : List PointResult}
    (href : List.Forall₂ Referenced results results') :
    List.Forall₂ Referenced (pictured results) (pictured results') := by
  induction href with
  | nil => exact .nil
  | @cons result result' results results' hfirst _ ih =>
    have hsame : result'.observation = result.observation := by
      obtain ⟨resultRef, rfl⟩ := hfirst
      rfl
    cases hseen : result.observation with
    | none =>
      rw [pictured_of_unseen hseen, pictured_of_unseen (hsame.trans hseen)]
      exact ih
    | some observation =>
      rw [pictured_of_seen (by simp [hseen]), pictured_of_seen (by simp [hsame, hseen])]
      exact .cons hfirst ih

lemma sighted_referenced {results results' : List PointResult}
    (href : List.Forall₂ Referenced results results') (h : ∀ result ∈ results, Sighted result) :
    ∀ result ∈ results', Sighted result := by
  induction href with
  | nil => exact h
  | cons hfirst _ ih =>
    obtain ⟨resultRef, rfl⟩ := hfirst
    obtain ⟨hsighted, hlater⟩ := List.forall_mem_cons.mp h
    exact List.forall_mem_cons.mpr ⟨⟨hsighted.seen, hsighted.notStale⟩, ih hlater⟩

def ReportPictures (points : List InspectionPointSpec) (report : RouteReport) : Prop :=
  (∃ first last, Numbered (Shows around options points) first last (pictured report.points)) ∧
    ∀ result ∈ report.points, Sighted result

lemma ends_executedPictures (hfresh : Fresh around.imageCapture)
    (points : List InspectionPointSpec) (report : RouteReport) (state : RouteState) :
    Ends (executeRoute around options points report) state
      (fun report' _ => ReportPictures around options points report') (fun _ => True) := by
  rw [executeRoute, ends_bind]
  refine (ends_visitPoints around options hfresh (List.Subset.refl points) state).mono ?_
    (fun _ _ => trivial)
  rintro visited s₁ ⟨hnumbered, hsighted⟩
  rw [ends_bind]
  refine (ends_allPersisted around options visited s₁).mono ?_ (fun _ _ => trivial)
  rintro results s₂ href
  have hpictures : ReportPictures around options points { report with points := results } := by
    refine ⟨⟨state.captures, s₁.captures, ?_⟩, sighted_referenced href hsighted⟩
    exact hnumbered.map (pictured_referenced href) fun _ _ _ hshows hfirst =>
      hshows.referenced hfirst
  simp only [ends_bind]
  refine (ends_trivial _ _).mono (fun finishedAt _ _ => ?_) (fun _ _ => trivial)
  refine (ends_trivial _ _).mono (fun _ _ _ => ?_) (fun _ _ => trivial)
  refine (ends_trivial _ _).mono (fun _ _ _ => ?_) (fun _ _ => trivial)
  exact hpictures

lemma ends_runPictures (hfresh : Fresh around.imageCapture) (points : List InspectionPointSpec)
    (state : RouteState) :
    Ends (runInspectionRoute around options points) state
      (fun report _ => ReportPictures around options points report) (fun _ => True) := by
  have hempty : ∀ report : RouteReport, report.points = [] →
      ReportPictures around options points report := by
    intro report hpoints
    rw [ReportPictures, hpoints]
    exact ⟨⟨0, 0, .nil le_rfl⟩, by simp⟩
  rw [runInspectionRoute]
  by_cases hpoints : points.isEmpty
  · rw [if_pos hpoints]
    trivial
  rw [if_neg hpoints, ends_bind, ends_get]
  by_cases hstore : options.execute ∧ state.store.isNone
  · rw [if_pos hstore]
    trivial
  rw [if_neg hstore, ends_bind]
  refine (ends_trivial _ _).mono (fun startedAt _ _ => ?_) (fun _ _ => trivial)
  rw [ends_bind]
  refine (ends_trivial _ _).mono (fun gates _ _ => ?_) (fun _ _ => trivial)
  dsimp only
  rw [ends_bind]
  refine (ends_trivial _ _).mono (fun camera _ _ => ?_) (fun _ _ => trivial)
  by_cases hdry : ¬ options.execute
  · simp only [if_pos hdry]
    exact hempty _ rfl
  by_cases hready : gates.1.ready && camera.1
  · simp only [if_neg hdry, if_pos hready]
    exact ends_executedPictures around options hfresh points _ _
  · simp only [if_neg hdry, if_neg hready, refuseRoute, ends_bind]
    refine (ends_trivial _ _).mono (fun finishedAt _ _ => ?_) (fun _ _ => trivial)
    refine (ends_trivial _ _).mono (fun reportRef _ _ => ?_) (fun _ _ => trivial)
    refine (ends_trivial _ _).mono (fun _ _ _ => ?_) (fun _ _ => trivial)
    exact hempty _ rfl

end Runs

/-- The result is what the image evaluates to which this spin of the camera node delivered. -/
def Inspects (world : RosWorld) (topic : String) (codecs : Codecs) (options : RouteOptions)
    (route : List InspectionPointSpec) (result : PointResult) (spin : ℕ) : Prop :=
  ∃ message, world.arrivals spin = some message ∧ ∃ point ∈ route,
    ∃ receivedAtNs startedAtNs rgb evaluation,
      Evaluates codecs options point
        (RosImageCapture.frameOf topic message receivedAtNs startedAtNs) rgb evaluation result

def Later (result later : PointResult) : Prop :=
  ∀ observation ∈ result.observation, ∀ next ∈ later.observation,
    observation.acquisitionStartedAtNs < next.acquisitionStartedAtNs ∧
      observation.receivedAtNs < next.receivedAtNs

lemma Evaluates.observation_of_mem {codecs : Codecs} {options : RouteOptions}
    {point : InspectionPointSpec} {frame : CapturedImageFrame} {rgb : Bytes}
    {evaluation : VisualEvaluation} {result : PointResult} {observation : ImageObservation}
    (h : Evaluates codecs options point frame rgb evaluation result)
    (hobservation : observation ∈ result.observation) :
    ∃ artifactRef, observation = observationOf options point frame artifactRef evaluation := by
  obtain ⟨artifactRef, heq⟩ := h.observation_eq
  exact ⟨artifactRef, Option.some.inj (hobservation.symm.trans heq)⟩

/-- Whatever time goes by between the captures of a route, its points are evaluated on images of
different spins, each stamped after its capture began to wait and the later ones received later; no
point is refused for a stale image. -/
theorem route_images_fresh_and_distinct (world : RosWorld) (topic : String)
    (hwall : StrictMono world.timeNs) (hros : Monotone world.rosNow) (lead : ℕ) (gaps : ℕ → ℕ)
    (around : RouteSurroundings) (options : RouteOptions) (points : List InspectionPointSpec)
    (start finish : RouteState) (report : RouteReport)
    (hrun : (runInspectionRoute (around.withCamera
      (rosImageCapture world topic lead gaps options.imageTimeoutSec)) options points).run start =
        .ok report finish) :
    (∃ first last, Numbered (Inspects world topic around.codecs options points) first last
        (pictured report.points)) ∧
      (pictured report.points).Pairwise Later ∧
      (∀ result ∈ report.points, ∀ observation ∈ result.observation,
        observation.acquisitionStartedAtNs < observation.capturedAtNs) ∧
      ∀ result ∈ report.points, Sighted result := by
  set camera := rosImageCapture world topic lead gaps options.imageTimeoutSec
  set before := beforeCapture world topic lead gaps options.imageTimeoutSec
  have hwithin : ∀ n frame, camera.captures n = .ok frame →
      Within world topic (before n) (before (n + 1)) frame :=
    fun n frame hframe => within_capture hwall hros hframe
  have hfresh : Fresh camera := fun n frame hframe => (hwithin n frame hframe).fresh
  obtain ⟨⟨first, last, hshows⟩, hsighted⟩ :=
    (ends_runPictures (around.withCamera camera) options hfresh points start).of_ok hrun
  refine ⟨?_, ?_, ?_, hsighted⟩
  · have hspins : Monotone fun n => (before n).spins := monotone_spins hwall
    refine ⟨_, _, hshows.renumber hspins ?_⟩
    rintro result n ⟨frame, hframe, point, hpoint, rgb, evaluation, hevaluates⟩
    obtain ⟨spin, hfrom, hto, message, hmessage, heq⟩ := (hwithin n frame hframe).delivered
    rw [heq] at hevaluates
    exact ⟨spin, hfrom, hto, message, hmessage, point, hpoint, _, _, rgb, evaluation, hevaluates⟩
  · apply hshows.pairwise
    rintro result later m n - hless - ⟨frame, hframe, point, -, rgb, evaluation, hevaluates⟩
      ⟨frame', hframe', point', -, rgb', evaluation', hevaluates'⟩ observation hobservation
      next hnext
    obtain ⟨artifactRef, rfl⟩ := hevaluates.observation_of_mem hobservation
    obtain ⟨artifactRef', rfl⟩ := hevaluates'.observation_of_mem hnext
    exact (hwithin m frame hframe).before hwall hros (hwithin n frame' hframe')
      (monotone_moment hwall hless)
  · intro result hresult observation hobservation
    have hmem : result ∈ pictured report.points := by
      refine List.mem_filter.mpr ⟨hresult, ?_⟩
      rw [hobservation, Option.isSome_some]
    obtain ⟨n, -, -, frame, hframe, point, -, rgb, evaluation, hevaluates⟩ :=
      hshows.exists_of_mem hmem
    obtain ⟨artifactRef, rfl⟩ := hevaluates.observation_of_mem hobservation
    exact hfresh n frame hframe

def blinkingRoute : Call RouteState RouteReport :=
  runInspectionRoute (defaultSurroundings.withCamera (rosImageCapture blinkingWorld
    "/camera/image_raw" 3 (fun _ => 9) (defaultOptions true).imageTimeoutSec))
    (defaultOptions true) defaultRoute

theorem route_images_fresh_and_distinct_blinking :
    ∃ report finish, blinkingRoute.run defaultStart = .ok report finish ∧
      (pictured report.points).length = 2 ∧ (pictured report.points).Pairwise Later := by
  have hreturns : (outcome blinkingRoute defaultStart).toOption.any fun report =>
      (pictured report.points).length = 2 := by
    decide +kernel
  cases hrun : blinkingRoute.run defaultStart with
  | error e finish => simp [outcome, hrun, Except.toOption] at hreturns
  | ok report finish =>
    refine ⟨report, finish, rfl, by simpa [outcome, hrun, Except.toOption] using hreturns, ?_⟩
    exact (route_images_fresh_and_distinct blinkingWorld "/camera/image_raw" blinkingWorld_timeNs
      blinkingWorld_rosNow 3 (fun _ => 9) defaultSurroundings (defaultOptions true) defaultRoute
      defaultStart finish report hrun).2.1

end Route
