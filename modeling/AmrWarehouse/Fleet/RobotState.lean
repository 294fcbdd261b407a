import AmrWarehouse.Library.Text

/-! Robot states, the transitions between them, and the errors of the fleet layer. -/

namespace Fleet

open Library

inductive RobotState
  | idle
  | assigned
  | busy
  | offline
  | error
  deriving DecidableEq, Repr

namespace RobotState

def value : RobotState → String
  | idle => "IDLE"
  | assigned => "ASSIGNED"
  | busy => "BUSY"
  | offline => "OFFLINE"
  | error => "ERROR"

def all : List RobotState := [idle, assigned, busy, offline, error]

def ofValue? (text : String) : Option RobotState := all.find? (fun state => state.value = text)

@[simp] lemma ofValue?_value (state : RobotState) : ofValue? state.value = some state := by
  cases state <;> decide

end RobotState

def activeTaskStates : List RobotState := [.assigned, .busy]

def dispatchableStates : List RobotState := [.idle]

def allowedTransitions : RobotState → List RobotState
  | .idle => [.assigned, .offline, .error]
  | .assigned => [.busy, .idle, .offline, .error]
  | .busy => [.idle, .offline, .error]
  | .offline => [.idle, .error]
  | .error => [.idle, .offline]

inductive ErrorKind
  | robotNotFound
  | invalidRobotTransition
  | robotNotAvailable
  | robotActiveTaskConflict
  | stationNotFound
  | taskAlreadyAssigned
  | noAvailableRobot
  | invalidLifecycleTransition
  | resourceNotFound
  | resourceOwnership
  | keyError
  | valueError
  | typeError
  | overflowError
  | databaseError
  deriving DecidableEq, Repr

structure FleetError where
  kind : ErrorKind
  message : String
  deriving DecidableEq, Repr

abbrev Call (σ α : Type) := EStateM FleetError σ α

def assertTransitionAllowed (current target : RobotState) : Except FleetError Unit :=
  if target ∈ allowedTransitions current then .ok ()
  else .error ⟨.invalidRobotTransition,
    s!"Robot state transition {current.value} -> {target.value} is not allowed."⟩

lemma assertTransitionAllowed_ok {current target : RobotState}
    (h : target ∈ allowedTransitions current) :
    assertTransitionAllowed current target = .ok () := by
  simp [assertTransitionAllowed, h]

end Fleet
