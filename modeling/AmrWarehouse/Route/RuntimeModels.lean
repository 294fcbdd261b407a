import AmrWarehouse.Library.Floating
import AmrWarehouse.Wms.TaskTable

/-! The points of an inspection route, and the statuses an execution goes through at a point. -/

namespace Route

open Library

inductive RouteError
  | cameraUnavailable (message : String)
  | imageTimeout (message : String)
  | invalidImage (message : String)
  | valueError (message : String)
  | overflowError (message : String)
  | indexError (message : String)
  | structError (message : String)
  | attributeError (message : String)
  | integrityError (message : String)
  | keyError (message : String)
  | fileError (message : String)
  | runtime (error : Wms.WmsError)
  deriving DecidableEq

/-- `str(error)`. -/
def RouteError.text : RouteError → String
  | cameraUnavailable message => message
  | imageTimeout message => message
  | invalidImage message => message
  | valueError message => message
  | overflowError message => message
  | indexError message => message
  | structError message => message
  | attributeError message => message
  | integrityError message => message
  | keyError message => quoted message
  | fileError message => message
  | runtime error => error.text

inductive InspectionPointStatus
  | pending
  | navigating
  | arrived
  | stabilizing
  | acquiring
  | validating
  | evaluating
  | succeeded
  | navigationFailed
  | acquisitionFailed
  | dataInvalid
  | evaluationFailed
  deriving DecidableEq, Repr

def InspectionPointStatus.value : InspectionPointStatus → String
  | pending => "pending"
  | navigating => "navigating"
  | arrived => "arrived"
  | stabilizing => "stabilizing"
  | acquiring => "acquiring"
  | validating => "validating"
  | evaluating => "evaluating"
  | succeeded => "succeeded"
  | navigationFailed => "navigation_failed"
  | acquisitionFailed => "acquisition_failed"
  | dataInvalid => "data_invalid"
  | evaluationFailed => "evaluation_failed"

inductive InspectionFindingLevel
  | pass
  | warning
  | critical
  deriving DecidableEq, Repr

inductive InspectionFaultCode
  | navigationFailed
  | cameraUnavailable
  | imageTimeout
  | dataInvalid
  | evaluationFailed
  | robotNotReady
  deriving DecidableEq, Repr

def pointTransitions : InspectionPointStatus → List InspectionPointStatus
  | .pending => [.navigating]
  | .navigating => [.arrived, .navigationFailed]
  | .arrived => [.stabilizing]
  | .stabilizing => [.acquiring]
  | .acquiring => [.validating, .acquisitionFailed]
  | .validating => [.evaluating, .dataInvalid]
  | .evaluating => [.succeeded, .evaluationFailed]
  | _ => []

def Leads : InspectionPointStatus → List InspectionPointStatus → InspectionPointStatus → Prop
  | start, [], finish => start = finish
  | start, next :: path, finish => next ∈ pointTransitions start ∧ Leads next path finish

structure InspectionPointSpec where
  pointId : String
  sequence : ℤ
  frameId : String
  x : Floating
  y : Floating
  yaw : Floating
  imageTopic : String
  stabilizationSec : Floating
  redRatioThreshold : Floating
  pointId_filled : Filled pointId
  frameId_filled : Filled frameId
  sequence_pos : 1 ≤ sequence
  pose_finite : x.isFinite ∧ y.isFinite ∧ yaw.isFinite
  imageTopic_absolute : imageTopic.toList.head? = some '/'
  stabilization_not_negative : stabilizationSec.lt (.finite 0) = false
  threshold_in_range :
    (Floating.finite 0).le redRatioThreshold ∧ redRatioThreshold.le (.finite 1)

def InspectionPointSpec.pose (point : InspectionPointSpec) : Wms.Pose :=
  ⟨point.frameId, point.x, point.y, point.yaw⟩

structure CapturedImageFrame where
  topic : String
  frameId : String
  capturedAtNs : ℤ
  receivedAtNs : ℤ
  acquisitionStartedAtNs : ℤ
  width : ℤ
  height : ℤ
  encoding : String
  step : ℤ
  data : List UInt8
  deriving DecidableEq

structure ImageObservation where
  runId : String
  pointId : String
  robotId : String
  capturedAtNs : ℤ
  receivedAtNs : ℤ
  acquisitionStartedAtNs : ℤ
  imageTopic : String
  imageWidth : ℤ
  imageHeight : ℤ
  encoding : String
  artifactRef : String
  redRatio : ℚ
  deriving DecidableEq

structure TransitionEvent where
  status : InspectionPointStatus
  atNs : ℤ
  reason : Option String
  deriving DecidableEq

/-- The transitions made so far lead to the status. -/
structure PointExecutionState where
  pointId : String
  status : InspectionPointStatus
  transitions : List TransitionEvent
  path : Leads .pending (transitions.map TransitionEvent.status) status

namespace PointExecutionState

def initial (pointId : String) : PointExecutionState := ⟨pointId, .pending, [], rfl⟩

lemma leads_append {start middle finish : InspectionPointStatus}
    {path : List InspectionPointStatus} (h : Leads start path middle)
    (hnext : finish ∈ pointTransitions middle) : Leads start (path ++ [finish]) finish := by
  induction path generalizing start with
  | nil =>
    obtain rfl : start = middle := h
    exact ⟨hnext, rfl⟩
  | cons next path ih => exact ⟨h.1, ih h.2⟩

def transition (state : PointExecutionState) (status : InspectionPointStatus) (atNs : ℤ)
    (reason : Option String := none) : Except RouteError PointExecutionState :=
  if h : status ∈ pointTransitions state.status then
    .ok
      { pointId := state.pointId
        status := status
        transitions := state.transitions ++ [⟨status, atNs, reason⟩]
        path := by
          rw [List.map_append]
          exact leads_append state.path h }
  else .error (.valueError ("Invalid inspection point transition: " ++
    s!"{state.status.value} -> {status.value}."))

end PointExecutionState

end Route
