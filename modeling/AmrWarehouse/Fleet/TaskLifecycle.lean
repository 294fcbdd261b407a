import AmrWarehouse.Fleet.Assignment

/-! The business status and the execution phase of a haul, and the snapshot that joins them to the
assignment status. -/

namespace Fleet

inductive WmsTaskStatus
  | pending
  | assigned
  | inProgress
  | succeeded
  | failed
  | canceled
  | requeued
  deriving DecidableEq, Repr

inductive HaulExecutionPhase
  | idle
  | navigatingToPickup
  | pickup
  | navigatingToDropoff
  | dropoff
  | succeeded
  | failed
  | canceled
  | requeued
  deriving DecidableEq, Repr

def WmsTaskStatus.value : WmsTaskStatus → String
  | pending => "pending"
  | assigned => "assigned"
  | inProgress => "in_progress"
  | succeeded => "succeeded"
  | failed => "failed"
  | canceled => "canceled"
  | requeued => "requeued"

def HaulExecutionPhase.value : HaulExecutionPhase → String
  | idle => "idle"
  | navigatingToPickup => "navigating_to_pickup"
  | pickup => "pickup"
  | navigatingToDropoff => "navigating_to_dropoff"
  | dropoff => "dropoff"
  | succeeded => "succeeded"
  | failed => "failed"
  | canceled => "canceled"
  | requeued => "requeued"

def terminalWmsStatuses : List WmsTaskStatus := [.succeeded, .failed, .canceled]

def terminalExecutionPhases : List HaulExecutionPhase := [.succeeded, .failed, .canceled, .requeued]

def allowedWmsTransitions : WmsTaskStatus → List WmsTaskStatus
  | .pending => [.assigned, .canceled]
  | .assigned => [.inProgress, .canceled, .requeued, .failed]
  | .inProgress => [.succeeded, .failed, .canceled, .requeued]
  | .requeued => [.assigned, .canceled]
  | .succeeded => []
  | .failed => []
  | .canceled => []

def allowedExecutionTransitions : HaulExecutionPhase → List HaulExecutionPhase
  | .idle => [.navigatingToPickup, .failed, .canceled, .requeued]
  | .navigatingToPickup => [.pickup, .failed, .canceled, .requeued]
  | .pickup => [.navigatingToDropoff, .failed, .canceled]
  | .navigatingToDropoff => [.dropoff, .failed, .canceled]
  | .dropoff => [.succeeded, .failed, .canceled]
  | .succeeded => []
  | .failed => []
  | .canceled => []
  | .requeued => [.idle]

def assertWmsTransitionAllowed (current target : WmsTaskStatus) : Except FleetError Unit :=
  if target ∈ allowedWmsTransitions current then .ok ()
  else .error ⟨.invalidLifecycleTransition,
    s!"WMS task status transition {current.value} -> {target.value} is not allowed."⟩

def assertExecutionTransitionAllowed (current target : HaulExecutionPhase) :
    Except FleetError Unit :=
  if target ∈ allowedExecutionTransitions current then .ok ()
  else .error ⟨.invalidLifecycleTransition,
    s!"Haul execution transition {current.value} -> {target.value} is not allowed."⟩

section Tables

variable {status : WmsTaskStatus} {phase : HaulExecutionPhase}

lemma assigned_mem_allowed :
    .assigned ∈ allowedWmsTransitions status ↔ status ∈ [.pending, .requeued] := by
  cases status <;> decide

lemma inProgress_mem_allowed :
    .inProgress ∈ allowedWmsTransitions status ↔ status = .assigned := by
  cases status <;> decide

lemma failed_mem_allowed :
    .failed ∈ allowedWmsTransitions status ↔ status ∈ [.assigned, .inProgress] := by
  cases status <;> decide

lemma canceled_mem_allowed :
    .canceled ∈ allowedWmsTransitions status ↔ status ∉ terminalWmsStatuses := by
  cases status <;> decide

lemma requeued_mem_allowed :
    .requeued ∈ allowedWmsTransitions status ↔ status ∈ [.assigned, .inProgress] := by
  cases status <;> decide

lemma not_terminal_of_working (h : status ∈ [.assigned, .inProgress]) :
    status ∉ terminalWmsStatuses := by
  cases status <;> simp_all [terminalWmsStatuses]

lemma not_terminal_of_open (h : status ∈ [.pending, .requeued]) :
    status ∉ terminalWmsStatuses := by
  cases status <;> simp_all [terminalWmsStatuses]

lemma not_working_of_open (h : status ∈ [.pending, .requeued]) :
    status ∉ [.assigned, .inProgress] := by
  cases status <;> simp_all

lemma mem_open_of_not_mem (hworking : status ∉ [.assigned, .inProgress])
    (hterminal : status ∉ terminalWmsStatuses) : status ∈ [.pending, .requeued] := by
  cases status <;> simp_all [terminalWmsStatuses]

lemma navigatingToPickup_mem_allowed :
    .navigatingToPickup ∈ allowedExecutionTransitions phase ↔ phase = .idle := by
  cases phase <;> decide

lemma idle_mem_allowed : .idle ∈ allowedExecutionTransitions phase ↔ phase = .requeued := by
  cases phase <;> decide

lemma failed_mem_allowed_phases :
    .failed ∈ allowedExecutionTransitions phase ↔ phase ∉ terminalExecutionPhases := by
  cases phase <;> decide

lemma canceled_mem_allowed_phases :
    .canceled ∈ allowedExecutionTransitions phase ↔ phase ∉ terminalExecutionPhases := by
  cases phase <;> decide

lemma requeued_mem_allowed_phases :
    .requeued ∈ allowedExecutionTransitions phase ↔ phase ∈ [.idle, .navigatingToPickup] := by
  cases phase <;> decide

end Tables

structure HaulTaskSnapshot where
  taskId : ℤ
  pickupStation : String
  dropoffStation : String
  priority : String
  wmsStatus : WmsTaskStatus
  assignmentStatus : Option AssignmentStatus
  executionPhase : HaulExecutionPhase
  robotId : Option String
  pickupCompleted : Bool
  reason : Option String
  deriving DecidableEq

end Fleet
