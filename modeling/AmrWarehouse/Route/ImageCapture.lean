import AmrWarehouse.Library.Clock
import AmrWarehouse.Library.Results
import AmrWarehouse.Route.RuntimeModels

/-! The camera node: it takes only images stamped after the ROS time at which it began to wait.
Each call is answered by the first such image, and no image answers two calls. -/

namespace Route

open Library

structure RosImage where
  stampSec : ℤ
  stampNanosec : ℕ
  frameId : String
  width : ℕ
  height : ℕ
  encoding : String
  step : ℕ
  data : List UInt8
  deriving DecidableEq

def RosImage.capturedAtNs (message : RosImage) : ℤ :=
  message.stampSec * 1000000000 + message.stampNanosec

/-- What the clocks and the number of publishers are at the `n`-th moment, and the image whose
callback the `n`-th spin of the node runs. An endless wait is followed as far as the patience
goes. -/
structure RosWorld where
  clock : Clock
  patience : ℕ
  timeNs : ℕ → ℤ
  rosNow : ℕ → ℤ
  publishers : ℕ → ℕ
  arrivals : ℕ → Option RosImage

structure CaptureState where
  latestMessage : Option RosImage := none
  latestReceivedAtNs : ℤ := 0
  moment : ℕ := 0
  spins : ℕ := 0
  deriving DecidableEq

abbrev Capture := EStateM RouteError CaptureState

namespace RosImageCapture

variable (world : RosWorld)

def observe {α : Type} (shown : ℕ → α) : Capture α := do
  let state ← get
  set { state with moment := state.moment + 1 }
  return shown state.moment

def onImage (message : RosImage) : Capture Unit := do
  let receivedAtNs ← observe world.timeNs
  modify fun state =>
    { state with latestMessage := some message, latestReceivedAtNs := receivedAtNs }

def spinOnce : Capture Unit := do
  let state ← get
  set { state with spins := state.spins + 1 }
  match world.arrivals state.spins with
  | some message => onImage world message
  | none => return

def outOfTurns (function : String) : RouteError := .runtime ⟨.outOfFuel, function⟩

def checkReadyTurn (deadline : Floating) : Capture (Option (Bool × String)) := do
  if 0 < (← observe world.publishers) then return some (true, "camera publisher available")
  else if deadline.le (.finite (← observe world.clock.time)) then
    return some (false, "camera topic has no publisher")
  else
    spinOnce world
    return none

def checkReady (timeoutSec : Floating) : Capture (Bool × String) := do
  let deadline := (timeoutSec.max 0).after (← observe world.clock.time)
  loop (checkReadyTurn world deadline) (outOfTurns "check_ready")
    (world.clock.turns world.patience deadline)

def rosTimeTurn (previousNs : ℤ) (deadline : Floating) : Capture (Option ℤ) := do
  spinOnce world
  let nowNs ← observe world.rosNow
  if 0 < nowNs ∧ (previousNs = 0 ∨ previousNs < nowNs) then return some nowNs
  else if deadline.le (.finite (← observe world.clock.time)) then
    throw (.cameraUnavailable "simulation_clock_unavailable")
  else return none

def currentRosTimeNs (timeoutSec : Floating) : Capture ℤ := do
  let previousNs ← observe world.rosNow
  let deadline := (timeoutSec.max 0).after (← observe world.clock.time)
  loop (rosTimeTurn world previousNs deadline) (outOfTurns "current_ros_time_ns")
    (world.clock.turns world.patience deadline)

def frameOf (topic : String) (message : RosImage) (receivedAtNs acquisitionStartedAtNs : ℤ) :
    CapturedImageFrame where
  topic := topic
  frameId := message.frameId
  capturedAtNs := message.capturedAtNs
  receivedAtNs := receivedAtNs
  acquisitionStartedAtNs := acquisitionStartedAtNs
  width := message.width
  height := message.height
  encoding := message.encoding
  step := message.step
  data := message.data

def noNewerImage (timeoutSec : Floating) : RouteError :=
  .imageTimeout ("no image newer than acquisition start within " ++
    timeoutSec.fixedPoint 1 ++ "s")

def captureTurn (topic : String) (timeoutSec deadline : Floating)
    (startedAtNs startedWallNs : ℤ) : Capture (Option CapturedImageFrame) := do
  if (Floating.finite (← observe world.clock.time)).le deadline then
    spinOnce world
    let state ← get
    match state.latestMessage with
    | none => return none
    | some message =>
      if message.capturedAtNs ≤ startedAtNs then return none
      else if state.latestReceivedAtNs < startedWallNs then return none
      else return some (frameOf topic message state.latestReceivedAtNs startedAtNs)
  else throw (noNewerImage timeoutSec)

def acquisitionStart (timeoutSec : Floating) : Capture ℤ := do
  let (ready, reason) ← checkReady world ((timeoutSec.max 0).min 2)
  if ready then currentRosTimeNs world ((timeoutSec.max 0).min 2)
  else throw (.cameraUnavailable reason)

def captureFresh (topic : String) (timeoutSec : Floating) : Capture CapturedImageFrame := do
  let startedAtNs ← acquisitionStart world timeoutSec
  let startedWallNs ← observe world.timeNs
  let deadline := (timeoutSec.max 0).after (← observe world.clock.time)
  loop (captureTurn world topic timeoutSec deadline startedAtNs startedWallNs)
    (outOfTurns "capture_fresh") (world.clock.turns world.patience deadline)

section Answers

variable {world} {α : Type} {s t u : CaptureState} {topic : String} {timeoutSec : Floating}

structure Onward (world : RosWorld) (s t : CaptureState) : Prop where
  moment : s.moment ≤ t.moment
  spins : s.spins ≤ t.spins
  held : t.latestMessage.isSome →
    ∃ received < t.moment, t.latestReceivedAtNs = world.timeNs received

lemma Onward.trans (h : Onward world s t) (h' : Onward world t u) : Onward world s u :=
  ⟨h.moment.trans h'.moment, h.spins.trans h'.spins, h'.held⟩

@[simp] lemma results_observe (shown : ℕ → α) {Q : α → CaptureState → Prop}
    {R : RouteError → CaptureState → Prop} :
    Results (observe shown) s Q R ↔ Q (shown s.moment) { s with moment := s.moment + 1 } :=
  Iff.rfl

lemma Onward.observed (h : Onward world s t) :
    Onward world s { t with moment := t.moment + 1 } := by
  refine ⟨h.moment.trans (Nat.le_succ _), h.spins, ?_⟩
  intro hsome
  obtain ⟨received, hlt, heq⟩ := h.held hsome
  exact ⟨received, Nat.lt_succ_of_lt hlt, heq⟩

structure Spun (world : RosWorld) (s t : CaptureState) : Prop where
  moment : s.moment ≤ t.moment
  spins : t.spins = s.spins + 1
  quiet : world.arrivals s.spins = none →
    t.latestMessage = s.latestMessage ∧ t.latestReceivedAtNs = s.latestReceivedAtNs
  delivers : ∀ message, world.arrivals s.spins = some message →
    t.latestMessage = some message ∧ s.moment < t.moment ∧
      t.latestReceivedAtNs = world.timeNs s.moment

lemma results_spinOnce {R : RouteError → CaptureState → Prop} :
    Results (spinOnce world) s (fun _ t => Spun world s t) R := by
  simp only [spinOnce, results_bind, results_get, results_set]
  cases hspin : world.arrivals s.spins with
  | none => exact ⟨le_rfl, rfl, fun _ => ⟨rfl, rfl⟩, by simp [hspin]⟩
  | some message =>
    simp only [onImage, results_bind, results_observe, results_modify]
    refine ⟨Nat.le_succ _, rfl, by simp [hspin], ?_⟩
    intro other hother
    rw [hspin] at hother
    exact ⟨hother, Nat.lt_succ_self _, rfl⟩

lemma Onward.spun (h : Onward world s t) (hspun : Spun world t u) : Onward world s u := by
  refine ⟨h.moment.trans hspun.moment, ?_, ?_⟩
  · rw [hspun.spins]
    exact h.spins.trans (Nat.le_succ _)
  · intro hsome
    cases hspin : world.arrivals t.spins with
    | none =>
      obtain ⟨hlatest, hreceived⟩ := hspun.quiet hspin
      obtain ⟨received, hlt, heq⟩ := h.held (hlatest ▸ hsome)
      exact ⟨received, hlt.trans_le hspun.moment, hreceived.trans heq⟩
    | some message =>
      obtain ⟨-, hmoment, hreceived⟩ := hspun.delivers message hspin
      exact ⟨t.moment, hmoment, hreceived⟩

def Late (world : RosWorld) (duration : Floating) (s t : CaptureState) (moment : ℕ) : Prop :=
  s.moment ≤ moment ∧ moment < t.moment ∧
    (Floating.finite (world.clock.time moment)).lt
      (duration.after (world.clock.time s.moment)) = false

def Unpublished (world : RosWorld) (duration : Floating) (s t : CaptureState) : Prop :=
  ∃ look, world.publishers look = 0 ∧ Late world duration s t (look + 1)

/-- The ROS time did not go forward before it was too late. -/
def Standing (world : RosWorld) (duration : Floating) (s t : CaptureState) : Prop :=
  ∃ start look, s.moment ≤ start ∧ start < look ∧
    ¬ (0 < world.rosNow look ∧
      (world.rosNow start = 0 ∨ world.rosNow start < world.rosNow look)) ∧
    Late world duration s t (look + 1)

lemma Late.mono {duration : Floating} {moment : ℕ} (h : Late world duration t u moment)
    (hmoment : s.moment ≤ t.moment) : Late world duration s u moment := by
  obtain ⟨hfrom, hto, htime⟩ := h
  exact ⟨hmoment.trans hfrom, hto, Floating.lt_after_of_le htime (world.clock.forward hmoment)⟩

/-- The wait was still going on when the patience was at its end, and no time ends it. -/
def Endless (timeoutSec : Floating) (e : RouteError) : Prop :=
  (timeoutSec = .infinite false ∨ timeoutSec = .nan) ∧ ∃ function, e = outOfTurns function

lemma endless_of_spare {function : String} {now : ℚ} {moment : ℕ}
    (h : world.clock.Spare ((timeoutSec.max 0).after now) 0 moment) :
    Endless timeoutSec (outOfTurns function) := by
  refine ⟨?_, function, rfl⟩
  have hendless := h.endless
  cases timeoutSec with
  | finite q =>
    have hzero : (0 : Floating) = .finite 0 := rfl
    rw [hzero, Floating.max_finite] at hendless
    cases hendless
  | infinite negative =>
    cases negative with
    | false => exact Or.inl rfl
    | true => cases hendless
  | nan => exact Or.inr rfl

lemma results_checkReady (hs : Onward world s s) (timeoutSec : Floating) :
    Results (checkReady world timeoutSec) s
      (fun r t => Onward world s t ∧
        (r.1 = false → r.2 = "camera topic has no publisher" ∧
          Unpublished world (timeoutSec.max 0) s t))
      (fun e t => Onward world s t ∧ Endless timeoutSec e) := by
  simp only [checkReady, results_bind, results_observe]
  set deadline := (timeoutSec.max 0).after (world.clock.time s.moment) with hdeadline
  apply results_loop fun turns t =>
    Onward world s t ∧ world.clock.Spare deadline turns t.moment
  · rintro turns t ⟨ht, hspare⟩
    simp only [checkReadyTurn, results_bind, results_observe, results_ite, results_pure]
    refine ⟨fun _ => ?_, fun hnone => ⟨fun hlate => ?_, fun hearly => ?_⟩⟩
    · exact ⟨fun r hr => by cases hr; exact ⟨ht.observed, by simp⟩, by simp⟩
    · refine ⟨fun r hr => ?_, by simp⟩
      cases hr
      refine ⟨ht.observed.observed, fun _ => ⟨rfl, t.moment, by omega, ?_⟩⟩
      exact ⟨ht.moment.trans (Nat.le_succ _), Nat.lt_succ_self _, Floating.lt_of_ge hlate⟩
    · apply results_spinOnce.mono
      · intro _ u hspun
        refine ⟨by simp, fun _ => ⟨ht.observed.observed.spun hspun, ?_⟩⟩
        refine hspare.next (fun d hd => ?_) (Nat.le_succ _) hspun.moment
        rw [hd, Floating.le_finite, decide_eq_true_eq, not_le] at hearly
        exact hearly.le
      · exact fun _ _ h => h
  · rintro t ⟨ht, hspare⟩
    exact ⟨ht, endless_of_spare hspare⟩
  · exact ⟨hs.observed, Clock.spare_turns _ _ _⟩

lemma results_currentRosTimeNs (hs : Onward world s s) (timeoutSec : Floating) :
    Results (currentRosTimeNs world timeoutSec) s
      (fun nowNs t => Onward world s t ∧ world.rosNow s.moment < nowNs ∧
        ∃ look, s.moment < look ∧ look < t.moment ∧ nowNs = world.rosNow look)
      (fun e t => Onward world s t ∧
        (e = .cameraUnavailable "simulation_clock_unavailable" ∧
            Standing world (timeoutSec.max 0) s t ∨
          Endless timeoutSec e)) := by
  simp only [currentRosTimeNs, results_bind, results_observe]
  set deadline := (timeoutSec.max 0).after (world.clock.time (s.moment + 1)) with hdeadline
  have hstart := world.clock.forward (Nat.le_succ s.moment)
  apply results_loop fun turns t => (Onward world s t ∧ s.moment + 2 ≤ t.moment) ∧
    world.clock.Spare deadline turns t.moment
  · rintro turns t ⟨⟨ht, hmore⟩, hspare⟩
    simp only [rosTimeTurn, results_bind, results_observe]
    apply results_spinOnce.mono
    · intro _ u hspun
      have hmoment := hspun.moment
      simp only [results_observe, results_ite, results_pure, results_throw, results_bind]
      refine ⟨fun hadvanced => ⟨fun r hr => ?_, by simp⟩, fun hstands => ⟨fun hlate => ?_, ?_⟩⟩
      · cases hr
        refine ⟨(ht.spun hspun).observed, ?_, u.moment, by omega, Nat.lt_succ_self _, rfl⟩
        rcases hadvanced.2 with hzero | hless
        · rw [hzero]
          exact hadvanced.1
        · exact hless
      · refine ⟨(ht.spun hspun).observed.observed, Or.inl ⟨trivial, s.moment, u.moment, le_rfl,
          by omega, hstands, by omega, Nat.lt_succ_self _, ?_⟩⟩
        exact Floating.lt_after_of_le (Floating.lt_of_ge hlate) hstart
      · intro hearly
        refine ⟨by simp, fun _ => ⟨⟨(ht.spun hspun).observed.observed, by omega⟩, ?_⟩⟩
        refine hspare.next (fun d hd => ?_) (hmoment.trans (Nat.le_succ _)) (Nat.lt_succ_self _)
        rw [hd, Floating.le_finite, decide_eq_true_eq, not_le] at hearly
        exact hearly.le
    · exact fun _ _ h => h
  · rintro t ⟨⟨ht, -⟩, hspare⟩
    exact ⟨ht, Or.inr (endless_of_spare hspare)⟩
  · exact ⟨⟨hs.observed.observed, le_rfl⟩, Clock.spare_turns _ _ _⟩

def Unavailable (world : RosWorld) (timeoutSec : Floating) (s t : CaptureState)
    (e : RouteError) : Prop :=
  e = .cameraUnavailable "camera topic has no publisher" ∧
      Unpublished world ((timeoutSec.max 0).min 2) s t ∨
    e = .cameraUnavailable "simulation_clock_unavailable" ∧
      Standing world ((timeoutSec.max 0).min 2) s t

lemma max_limit (timeoutSec : Floating) :
    Floating.max ((timeoutSec.max 0).min 2) 0 = (timeoutSec.max 0).min 2 := by
  cases timeoutSec with
  | finite q =>
    have hzero : (0 : Floating) = .finite 0 := rfl
    have htwo : (2 : Floating) = .finite 2 := rfl
    rw [hzero, htwo, Floating.max_finite, Floating.min_finite, Floating.max_finite,
      max_eq_left (le_min (le_max_right _ _) (by norm_num))]
  | infinite negative => cases negative <;> decide
  | nan => rfl

lemma Endless.of_limit {e : RouteError} (h : Endless ((timeoutSec.max 0).min 2) e) :
    Endless timeoutSec e := by
  obtain ⟨hlimit, herror⟩ := h
  refine ⟨?_, herror⟩
  cases timeoutSec with
  | finite q =>
    have hzero : (0 : Floating) = .finite 0 := rfl
    have htwo : (2 : Floating) = .finite 2 := rfl
    rw [hzero, htwo, Floating.max_finite, Floating.min_finite] at hlimit
    simp at hlimit
  | infinite negative => cases negative <;> revert hlimit <;> decide
  | nan => exact Or.inr rfl

lemma results_acquisitionStart (hs : Onward world s s) (timeoutSec : Floating) :
    Results (acquisitionStart world timeoutSec) s
      (fun boundary t => Onward world s t ∧
        ∃ start look, s.moment ≤ start ∧ look < t.moment ∧ world.rosNow start < boundary ∧
          boundary = world.rosNow look)
      (fun e t => Onward world s t ∧
        (Unavailable world timeoutSec s t e ∨ Endless timeoutSec e)) := by
  simp only [acquisitionStart, results_bind]
  apply (results_checkReady hs ((timeoutSec.max 0).min 2)).mono
  · rintro ⟨ready, reason⟩ t ⟨ht, hclosed⟩
    rw [max_limit] at hclosed
    simp only [results_ite, results_throw]
    constructor
    · intro _
      apply (results_currentRosTimeNs (⟨le_rfl, le_rfl, ht.held⟩ : Onward world t t) _).mono
      · rintro boundary u ⟨hu, hless, look, -, hlook, heq⟩
        exact ⟨ht.trans hu, t.moment, look, ht.moment, hlook, hless, heq⟩
      · rintro e u ⟨hu, ⟨rfl, start, look, hstart, hlook, hstands, hlate⟩ | hendless⟩
        · rw [max_limit] at hlate
          exact ⟨ht.trans hu, Or.inl (Or.inr ⟨rfl, start, look, ht.moment.trans hstart, hlook,
            hstands, hlate.mono ht.moment⟩)⟩
        · exact ⟨ht.trans hu, Or.inr hendless.of_limit⟩
    · intro hready
      obtain ⟨rfl, hunpublished⟩ := hclosed (by simpa using hready)
      exact ⟨ht, Or.inl (Or.inl ⟨rfl, hunpublished⟩)⟩
  · exact fun _ _ h => ⟨h.1, Or.inr h.2.of_limit⟩

def AllStale (world : RosWorld) (boundary : ℤ) (first last : ℕ) : Prop :=
  ∀ spin, first ≤ spin → spin < last → ∀ message, world.arrivals spin = some message →
    message.capturedAtNs ≤ boundary

/-- The frame is that of the image which the spin delivers, the first one after the boundary. -/
structure FirstFresh (world : RosWorld) (topic : String) (opened : CaptureState) (spin : ℕ)
    (message : RosImage) (frame : CapturedImageFrame) : Prop where
  waited : opened.spins ≤ spin
  delivered : world.arrivals spin = some message
  frame_eq : frame = frameOf topic message frame.receivedAtNs frame.acquisitionStartedAtNs
  fresh : frame.acquisitionStartedAtNs < message.capturedAtNs
  earlier : AllStale world frame.acquisitionStartedAtNs opened.spins spin

def Answered (world : RosWorld) (topic : String) (timeoutSec : Floating) (s t : CaptureState) :
    Except RouteError CapturedImageFrame → Prop
  | .ok frame => ∃ opened,
      (acquisitionStart world timeoutSec).run s = .ok frame.acquisitionStartedAtNs opened ∧
        (∃ spin message, t.spins = spin + 1 ∧
          FirstFresh world topic opened spin message frame) ∧
        ∃ received, opened.moment < received ∧ received < t.moment ∧
          frame.receivedAtNs = world.timeNs received
  | .error e =>
      (acquisitionStart world timeoutSec).run s = .error e t ∧
          (Unavailable world timeoutSec s t e ∨ Endless timeoutSec e) ∨
        ∃ boundary opened, (acquisitionStart world timeoutSec).run s = .ok boundary opened ∧
          AllStale world boundary opened.spins t.spins ∧
            (e = noNewerImage timeoutSec ∧
                (∃ moment, Late world (timeoutSec.max 0) opened t moment) ∨
              Endless timeoutSec e)

structure Waiting (world : RosWorld) (boundary : ℤ) (opened t : CaptureState) : Prop where
  since : Onward world opened t
  moment : opened.moment + 2 ≤ t.moment
  stale : AllStale world boundary opened.spins t.spins
  held : ∀ message, t.latestMessage = some message → message.capturedAtNs ≤ boundary ∨
    t.latestReceivedAtNs < world.timeNs opened.moment

lemma AllStale.next {boundary : ℤ} {first last : ℕ} (h : AllStale world boundary first last)
    (hlast : ∀ message, world.arrivals last = some message → message.capturedAtNs ≤ boundary) :
    AllStale world boundary first (last + 1) := by
  intro spin hfirst hspin message hmessage
  rcases Nat.lt_succ_iff_lt_or_eq.mp hspin with hless | rfl
  · exact h spin hfirst hless message hmessage
  · exact hlast message hmessage

lemma Waiting.spun {boundary : ℤ} {opened : CaptureState} (h : Waiting world boundary opened t)
    (hspun : Spun world t u)
    (hstale : ∀ message, world.arrivals t.spins = some message →
      message.capturedAtNs ≤ boundary) : Waiting world boundary opened u := by
  refine ⟨h.since.spun hspun, h.moment.trans hspun.moment, ?_, ?_⟩
  · rw [hspun.spins]
    exact h.stale.next hstale
  · intro message hmessage
    cases hspin : world.arrivals t.spins with
    | none =>
      obtain ⟨hlatest, hreceived⟩ := hspun.quiet hspin
      rw [hreceived]
      exact h.held message (hlatest ▸ hmessage)
    | some delivered =>
      obtain ⟨hlatest, -⟩ := hspun.delivers delivered hspin
      obtain rfl : delivered = message := Option.some.inj (hlatest.symm.trans hmessage)
      exact Or.inl (hstale delivered hspin)

lemma Waiting.observed {boundary : ℤ} {opened : CaptureState}
    (h : Waiting world boundary opened t) :
    Waiting world boundary opened { t with moment := t.moment + 1 } :=
  ⟨h.since.observed, h.moment.trans (Nat.le_succ _), h.stale, h.held⟩

lemma results_awaitFresh (hwall : StrictMono world.timeNs) {boundary : ℤ}
    {opened : CaptureState} {deadline : Floating}
    (hdeadline : deadline = (timeoutSec.max 0).after (world.clock.time (opened.moment + 1)))
    (ht : Waiting world boundary opened t) :
    Results (loop (captureTurn world topic timeoutSec deadline boundary
        (world.timeNs opened.moment)) (outOfTurns "capture_fresh")
        (world.clock.turns world.patience deadline)) t
      (fun frame u => frame.acquisitionStartedAtNs = boundary ∧ Onward world opened u ∧
        (∃ spin message, u.spins = spin + 1 ∧
          FirstFresh world topic opened spin message frame) ∧
        ∃ received, opened.moment < received ∧ received < u.moment ∧
          frame.receivedAtNs = world.timeNs received)
      (fun e u => Onward world opened u ∧ AllStale world boundary opened.spins u.spins ∧
        (e = noNewerImage timeoutSec ∧
            (∃ moment, Late world (timeoutSec.max 0) opened u moment) ∨
          Endless timeoutSec e)) := by
  apply results_loop fun turns t =>
    Waiting world boundary opened t ∧ world.clock.Spare deadline turns t.moment
  · rintro turns t ⟨ht, hspare⟩
    simp only [captureTurn, results_bind, results_observe, results_ite, results_throw]
    refine ⟨fun hearly => ?_, fun hlate => ?_⟩
    · apply results_spinOnce.mono
      · intro _ u hspun
        have hless : world.clock.Spare deadline turns u.moment := by
          refine hspare.next (fun d hd => ?_) le_rfl hspun.moment
          rwa [hd, Floating.le_finite, decide_eq_true_eq] at hearly
        rw [results_get]
        cases hspin : world.arrivals t.spins with
        | none =>
          have hu := ht.observed.spun hspun (by simp [hspin])
          cases hlatest : u.latestMessage with
          | none => exact ⟨by simp, fun _ => ⟨hu, hless⟩⟩
          | some message =>
            simp only [results_ite, results_pure]
            refine ⟨fun _ => ⟨by simp, fun _ => ⟨hu, hless⟩⟩, fun hfresh =>
              ⟨fun _ => ⟨by simp, fun _ => ⟨hu, hless⟩⟩, fun hreceived => ?_⟩⟩
            rcases hu.held message hlatest with hstale | hold
            · exact absurd hstale hfresh
            · exact absurd hold hreceived
        | some message =>
          obtain ⟨hlatest, hmore, hreceived⟩ := hspun.delivers message hspin
          simp only [hlatest, results_ite, results_pure]
          refine ⟨fun hstale => ⟨by simp, fun _ => ⟨?_, hless⟩⟩, fun hfresh => ⟨fun hold => ?_,
            fun _ => ⟨fun r hr => ?_, by simp⟩⟩⟩
          · refine ht.observed.spun hspun ?_
            intro other hother
            rw [hspin] at hother
            exact Option.some.inj hother ▸ hstale
          · rw [hreceived] at hold
            have hbefore := hwall (show opened.moment < t.moment + 1 by have := ht.moment; omega)
            exact absurd hold (not_lt.mpr hbefore.le)
          · cases hr
            refine ⟨rfl, ht.observed.since.spun hspun, ⟨t.spins, message, hspun.spins,
              ht.since.spins, hspin, rfl, not_le.mp hfresh, ht.stale⟩, t.moment + 1, ?_, hmore,
              hreceived⟩
            have := ht.moment
            omega
      · exact fun _ _ h => h
    · refine ⟨ht.since.observed, ht.stale, Or.inl ⟨trivial, t.moment, ht.since.moment,
        Nat.lt_succ_self _, ?_⟩⟩
      rw [Bool.not_eq_true, hdeadline] at hlate
      exact Floating.lt_after_of_le (Floating.lt_of_le hlate)
        (world.clock.forward (Nat.le_succ opened.moment))
  · rintro t ⟨ht, hspare⟩
    rw [hdeadline] at hspare
    exact ⟨ht.since, ht.stale, Or.inr (endless_of_spare hspare)⟩
  · exact ⟨ht, Clock.spare_turns _ _ _⟩

lemma answered_captureFresh (hwall : StrictMono world.timeNs) (hs : Onward world s s)
    (topic : String) (timeoutSec : Floating) :
    Results (captureFresh world topic timeoutSec) s
      (fun frame t => Onward world s t ∧ Answered world topic timeoutSec s t (.ok frame))
      (fun e t => Onward world s t ∧ Answered world topic timeoutSec s t (.error e)) := by
  have hstart := results_acquisitionStart hs timeoutSec
  rw [captureFresh, results_bind, Results]
  cases hopened : (acquisitionStart world timeoutSec).run s with
  | error e t =>
    obtain ⟨ht, hunavailable⟩ := hstart.of_error hopened
    exact ⟨ht, Or.inl ⟨hopened, hunavailable⟩⟩
  | ok boundary opened =>
    obtain ⟨ho, -⟩ := hstart.of_ok hopened
    have hself : Onward world opened opened := ⟨le_rfl, le_rfl, ho.held⟩
    simp only [results_bind, results_observe]
    have hwaiting : Waiting world boundary opened { opened with moment := opened.moment + 2 } := by
      refine ⟨hself.observed.observed, le_rfl, fun spin hfirst hspin => ?_, ?_⟩
      · exact absurd hspin (not_lt.mpr hfirst)
      · intro message hmessage
        obtain ⟨received, hless, heq⟩ := ho.held (by rw [hmessage]; rfl)
        exact Or.inr (heq ▸ hwall hless)
    apply (results_awaitFresh hwall rfl hwaiting).mono
    · rintro frame t ⟨rfl, ht, hfirst, hreceived⟩
      exact ⟨ho.trans ht, opened, hopened, hfirst, hreceived⟩
    · rintro e t ⟨ht, hstale, hended⟩
      exact ⟨ho.trans ht, Or.inr ⟨boundary, opened, hopened, hstale, hended⟩⟩

end Answers

end RosImageCapture

end Route
