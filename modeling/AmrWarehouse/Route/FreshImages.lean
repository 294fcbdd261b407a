import AmrWarehouse.Library.Numbered
import AmrWarehouse.Library.Runs
import AmrWarehouse.Route.ImageCapture

/-! The frames a camera node takes over a run of calls: each call is answered by the first image
stamped after it began to wait, and no image answers two of them. -/

namespace Route

open Library

inductive CameraOp
  | idle (moments : ℕ)
  | checkReady (timeoutSec : Floating)
  | captureFresh (timeoutSec : Floating)

variable (world : RosWorld) (topic : String)

def CameraOp.step (state : CaptureState) : CameraOp → CaptureState
  | idle moments => { state with moment := state.moment + moments }
  | checkReady timeoutSec => final (RosImageCapture.checkReady world timeoutSec) state
  | captureFresh timeoutSec => final (RosImageCapture.captureFresh world topic timeoutSec) state

def cameraAfter (ops : List CameraOp) : CaptureState := runAll (CameraOp.step world topic) {} ops

def CameraOp.frame (state : CaptureState) : CameraOp → Option CapturedImageFrame
  | captureFresh timeoutSec =>
    (outcome (RosImageCapture.captureFresh world topic timeoutSec) state).toOption
  | _ => none

def framesOf : CaptureState → List CameraOp → List CapturedImageFrame
  | _, [] => []
  | state, op :: ops =>
    (op.frame world topic state).toList ++ framesOf (op.step world topic state) ops

def DeliveredBy (frame : CapturedImageFrame) (spin : ℕ) : Prop :=
  ∃ message, world.arrivals spin = some message ∧ frame = RosImageCapture.frameOf topic message
    frame.receivedAtNs frame.acquisitionStartedAtNs

section Captures

open RosImageCapture

variable {world topic} {s t u v : CaptureState} {frame other : CapturedImageFrame}

lemma onward_idle (h : Onward world s s) (moments : ℕ) :
    Onward world s { s with moment := s.moment + moments } := by
  refine ⟨Nat.le_add_right _ _, le_rfl, ?_⟩
  intro hsome
  obtain ⟨received, hless, heq⟩ := h.held hsome
  exact ⟨received, by dsimp only; omega, heq⟩

lemma onward_after (hwall : StrictMono world.timeNs) (h : Onward world s s) (op : CameraOp) :
    Onward world s (op.step world topic s) := by
  cases op with
  | idle moments => exact onward_idle h moments
  | checkReady timeoutSec =>
    exact ((results_checkReady h timeoutSec).mono (fun _ _ hr => hr.1) (fun _ _ he => he.1)).final
  | captureFresh timeoutSec =>
    exact ((answered_captureFresh hwall h topic timeoutSec).mono (fun _ _ hr => hr.1)
      (fun _ _ he => he.1)).final

structure Within (world : RosWorld) (topic : String) (s t : CaptureState)
    (frame : CapturedImageFrame) : Prop where
  fresh : frame.acquisitionStartedAtNs < frame.capturedAtNs
  begun : world.rosNow s.moment < frame.acquisitionStartedAtNs
  started : frame.acquisitionStartedAtNs ≤ world.rosNow t.moment
  opened : world.timeNs s.moment < frame.receivedAtNs
  received : frame.receivedAtNs < world.timeNs t.moment
  delivered : ∃ spin, s.spins ≤ spin ∧ spin < t.spins ∧ DeliveredBy world topic frame spin

lemma within_captureFresh (hwall : StrictMono world.timeNs) (hros : Monotone world.rosNow)
    (h : Onward world s s) {timeoutSec : Floating}
    (hframe : outcome (RosImageCapture.captureFresh world topic timeoutSec) s = .ok frame) :
    Within world topic s (final (RosImageCapture.captureFresh world topic timeoutSec) s) frame := by
  obtain ⟨-, opened, hopened, ⟨spin, message, hspins, hfirst⟩, received, hbegun, hreceived, heq⟩ :=
    (answered_captureFresh hwall h topic timeoutSec).of_outcome_ok hframe
  obtain ⟨honward, start, look, hstart, hlook, hbefore, hshown⟩ :=
    (results_acquisitionStart h timeoutSec).of_ok hopened
  have hmoment := honward.moment
  refine ⟨?_, (hros hstart).trans_lt hbefore, ?_, ?_, ?_, spin, ?_, ?_, message, hfirst.delivered,
    hfirst.frame_eq⟩
  · rw [hfirst.frame_eq]
    exact hfirst.fresh
  · rw [hshown]
    exact hros (by omega)
  · rw [heq]
    exact hwall (by omega)
  · rw [heq]
    exact hwall hreceived
  · exact honward.spins.trans hfirst.waited
  · omega

lemma within_frame (hwall : StrictMono world.timeNs) (hros : Monotone world.rosNow)
    (h : Onward world s s) {op : CameraOp} (hframe : op.frame world topic s = some frame) :
    Within world topic s (op.step world topic s) frame := by
  cases op with
  | idle moments => simp [CameraOp.frame] at hframe
  | checkReady timeoutSec => simp [CameraOp.frame] at hframe
  | captureFresh timeoutSec =>
    apply within_captureFresh hwall hros h
    rw [CameraOp.frame] at hframe
    cases houtcome : outcome (RosImageCapture.captureFresh world topic timeoutSec) s with
    | ok taken => simpa [houtcome, Except.toOption] using hframe
    | error e => simp [houtcome, Except.toOption] at hframe

def Before (frame other : CapturedImageFrame) : Prop :=
  frame.acquisitionStartedAtNs < other.acquisitionStartedAtNs ∧
    frame.receivedAtNs < other.receivedAtNs

lemma Within.before (hwall : StrictMono world.timeNs) (hros : Monotone world.rosNow)
    (h : Within world topic s t frame) (h' : Within world topic u v other)
    (hmoment : t.moment ≤ u.moment) : Before frame other :=
  ⟨(h.started.trans (hros hmoment)).trans_lt h'.begun,
    (h.received.trans_le (hwall.monotone hmoment)).trans h'.opened⟩

lemma Within.of_onward (h : Within world topic s t frame) (hwall : StrictMono world.timeNs)
    (hros : Monotone world.rosNow) (hu : u.moment ≤ s.moment) (hspins : u.spins ≤ s.spins)
    (hv : t.moment ≤ v.moment) (hlast : t.spins ≤ v.spins) : Within world topic u v frame := by
  obtain ⟨spin, hfrom, hto, hdelivered⟩ := h.delivered
  exact ⟨h.fresh, (hros hu).trans_lt h.begun, h.started.trans (hros hv),
    (hwall.monotone hu).trans_lt h.opened, h.received.trans_le (hwall.monotone hv),
    spin, hspins.trans hfrom, hto.trans_le hlast, hdelivered⟩

lemma onward_run (hwall : StrictMono world.timeNs) (h : Onward world s s) (ops : List CameraOp) :
    Onward world s (runAll (CameraOp.step world topic) s ops) := by
  induction ops generalizing s with
  | nil => exact h
  | cons op ops ih =>
    have hop : Onward world s (op.step world topic s) := onward_after hwall h op
    exact hop.trans (ih ⟨le_rfl, le_rfl, hop.held⟩)

lemma frames_of_run (hwall : StrictMono world.timeNs) (hros : Monotone world.rosNow)
    (h : Onward world s s) (ops : List CameraOp) :
    (∀ frame ∈ framesOf world topic s ops,
        Within world topic s (runAll (CameraOp.step world topic) s ops) frame) ∧
      (framesOf world topic s ops).Pairwise Before ∧
      Numbered (DeliveredBy world topic) s.spins
        (runAll (CameraOp.step world topic) s ops).spins (framesOf world topic s ops) := by
  induction ops generalizing s with
  | nil => exact ⟨by simp [framesOf], .nil, .nil le_rfl⟩
  | cons op ops ih =>
    have hop : Onward world s (op.step world topic s) := onward_after hwall h op
    have hnext : Onward world _ _ := ⟨le_rfl, le_rfl, hop.held⟩
    obtain ⟨hlater, hpairs, hnumbered⟩ := ih hnext
    have hrest : Onward world (op.step world topic s)
        (runAll (CameraOp.step world topic) (op.step world topic s) ops) :=
      onward_run hwall hnext ops
    rw [framesOf, runAll_cons]
    cases hframe : op.frame world topic s with
    | none =>
      refine ⟨fun frame hmem => ?_, hpairs, hnumbered.after hop.spins⟩
      exact (hlater frame hmem).of_onward hwall hros hop.moment hop.spins le_rfl le_rfl
    | some frame =>
      have hwithin := within_frame hwall hros h hframe
      have hall := hwithin.of_onward hwall hros le_rfl le_rfl hrest.moment hrest.spins
      obtain ⟨spin, hfrom, hto, hdelivered⟩ := hwithin.delivered
      refine ⟨?_, ?_, (Numbered.singleton hfrom hto hdelivered).append hnumbered⟩
      · intro other hother
        rcases List.mem_cons.mp hother with rfl | hother
        · exact hall
        · exact (hlater other hother).of_onward hwall hros hop.moment hop.spins le_rfl le_rfl
      · refine List.pairwise_cons.mpr ⟨fun other hother => ?_, hpairs⟩
        exact hwithin.before hwall hros (hlater other hother) le_rfl

lemma onward_initial : Onward world {} {} := ⟨le_rfl, le_rfl, by simp⟩

lemma onward_cameraAfter (hwall : StrictMono world.timeNs) (ops : List CameraOp) :
    Onward world (cameraAfter world topic ops) (cameraAfter world topic ops) :=
  ⟨le_rfl, le_rfl, (onward_run hwall onward_initial ops).held⟩

end Captures

def blinkingWorld : RosWorld where
  clock := Clock.ticking (1 / 10) (by norm_num)
  patience := 0
  timeNs n := n
  rosNow n := n
  publishers _ := 1
  arrivals spin :=
    if spin % 2 = 0 then some ⟨0, 5 * spin, "camera_link", 1, 1, "rgb8", 3, [1, 2, 3]⟩
    else none

lemma blinkingWorld_timeNs : StrictMono blinkingWorld.timeNs := Nat.strictMono_cast

lemma blinkingWorld_rosNow : Monotone blinkingWorld.rosNow := Nat.mono_cast

def twoCaptures : List CameraOp := [.checkReady 2, .captureFresh 5, .idle 9, .captureFresh 5]

/-- The frames of a run come from images of different spins, in their order; each is newer than the
boundary of its call, and boundaries and receptions follow one another. -/
theorem no_image_answers_two_captures (world : RosWorld) (topic : String)
    (hwall : StrictMono world.timeNs) (hros : Monotone world.rosNow) (ops : List CameraOp) :
    Numbered (DeliveredBy world topic) 0 (cameraAfter world topic ops).spins
        (framesOf world topic {} ops) ∧
      (framesOf world topic {} ops).Pairwise Before ∧
      ∀ frame ∈ framesOf world topic {} ops,
        frame.acquisitionStartedAtNs < frame.capturedAtNs := by
  obtain ⟨hwithin, hpairs, hnumbered⟩ :=
    frames_of_run hwall hros onward_initial ops
  exact ⟨hnumbered, hpairs, fun frame hframe => (hwithin frame hframe).fresh⟩

theorem no_image_answers_two_captures_blinking :
    (framesOf blinkingWorld "/camera" {} twoCaptures).length = 2 ∧
      Numbered (DeliveredBy blinkingWorld "/camera") 0
        (cameraAfter blinkingWorld "/camera" twoCaptures).spins
        (framesOf blinkingWorld "/camera" {} twoCaptures) :=
  ⟨by decide +kernel,
    (no_image_answers_two_captures blinkingWorld "/camera" blinkingWorld_timeNs
      blinkingWorld_rosNow twoCaptures).1⟩

end Route
