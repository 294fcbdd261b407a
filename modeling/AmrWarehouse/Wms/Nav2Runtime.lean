import AmrWarehouse.Library.Results
import AmrWarehouse.Wms.Runtime

/-! The runtime on Nav2: the checks of the ready gate, and one goal from its dispatch until the
client has its result or gives it up. What rclpy answers or raises is taken as it comes. -/

namespace Wms

open Library

/-- A future after the spin that waits for it. The value of one that is done may be `None`. -/
inductive Future (α : Type)
  | pending
  | done (value : Option α)
  deriving DecidableEq

structure LifecycleState where
  label : String
  id : ℕ
  deriving DecidableEq

structure LifecycleAnswers where
  waitForService : Except WmsError Bool
  response : Except WmsError (Future LifecycleState)

/-- What is answered to one check of the gate; `transforms` has an answer for each spin in time. -/
structure GateAnswers where
  lifecycle : String → LifecycleAnswers
  transforms : List (Except WmsError Bool)
  waitForServer : Except WmsError Bool

/-- What is answered to the client of one goal: whether the goal was accepted, and the status of its
result. -/
structure GoalAnswers where
  stamp : ℤ
  sendGoal : Except WmsError Unit
  acceptance : Except WmsError (Future Bool)
  getResult : Except WmsError Unit
  result : Except WmsError (Future ℕ)
  cancelGoal : Except WmsError Unit

structure GoalMsg where
  frameId : String
  stamp : ℤ
  x : Floating
  y : Floating
  z : Floating
  orientation : Floating × Floating × Floating × Floating
  deriving DecidableEq

structure Nav2World where
  actionName : String
  sin : ℚ → ℚ
  cos : ℚ → ℚ
  gate : ℕ → GateAnswers
  goal : ℕ → GoalAnswers

inductive ClientAct
  | sendGoal (goal : GoalMsg)
  | getResult
  | cancelGoal
  deriving DecidableEq

abbrev Client := EStateM WmsError (List ClientAct)

def requiredLifecycleNodes : List String :=
  ["/map_server", "/amcl", "/planner_server", "/controller_server", "/bt_navigator"]

def failedNavigation (reason : String) : NavigationResult := ⟨false, "failed", reason⟩

namespace GoalStatus

def succeeded : ℕ := 4

def canceled : ℕ := 5

def aborted : ℕ := 6

end GoalStatus

namespace RosNav2Runtime

def getLifecycleState (answers : LifecycleAnswers) : Except WmsError String := do
  if !(← answers.waitForService) then return "unavailable"
  match ← answers.response with
  | .pending => return "timeout"
  | .done none => return "unknown"
  | .done (some state) => return if state.label ≠ "" then state.label else toString state.id

def inactiveNode (gate : GateAnswers) : List String → Except WmsError (Option (String × String))
  | [] => return none
  | node :: nodes => do
    let state ← getLifecycleState (gate.lifecycle node)
    if state ≠ "active" then return some (node, state) else inactiveNode gate nodes

def mapToOdomAvailable : List (Except WmsError Bool) → Except WmsError Bool
  | [] => return false
  | answer :: answers => do if ← answer then return true else mapToOdomAvailable answers

def checkReadyGate (actionName : String) (gate : GateAnswers) :
    Except WmsError ReadyGateResult := do
  match ← inactiveNode gate requiredLifecycleNodes with
  | some (node, state) => return ⟨false, s!"{node} lifecycle state is {state}"⟩
  | none =>
    if !(← mapToOdomAvailable gate.transforms) then
      return ⟨false, "map -> odom transform is unavailable"⟩
    else if !(← gate.waitForServer) then
      return ⟨false, s!"{actionName} action server is unavailable"⟩
    else return ⟨true, "ready gate satisfied"⟩

variable (world : Nav2World)

def quaternionFromYaw : Floating → Except WmsError (Floating × Floating × Floating × Floating)
  | .finite yaw =>
    let halfYaw := roundDouble (yaw / 2)
    .ok (.finite 0, .finite 0, .finite (world.sin halfYaw), .finite (world.cos halfYaw))
  | .infinite _ => .error ⟨.valueError, "math domain error"⟩
  | .nan => .ok (.finite 0, .finite 0, .nan, .nan)

def goalMsg (pose : Pose) (stamp : ℤ) : Except WmsError GoalMsg := do
  let orientation ← quaternionFromYaw world pose.yaw
  return ⟨pose.frameId, stamp, pose.x, pose.y, .finite 0, orientation⟩

def ask (request : ClientAct) (answer : Except WmsError Unit) : Client Unit := do
  modify (· ++ [request])
  orRaise answer

def shown : Option ℕ → String
  | some statusCode => toString statusCode
  | none => "None"

def resultOf (statusCode : Option ℕ) : NavigationResult :=
  if statusCode = some GoalStatus.succeeded then
    ⟨true, "succeeded", "NavigateToPose result: SUCCEEDED."⟩
  else if statusCode = some GoalStatus.aborted then
    failedNavigation "NavigateToPose result: ABORTED."
  else if statusCode = some GoalStatus.canceled then
    failedNavigation "NavigateToPose result: CANCELED."
  else failedNavigation s!"NavigateToPose result status code: {shown statusCode}."

def timedOut (timeoutSec : Floating) : NavigationResult :=
  failedNavigation s!"NavigateToPose timed out after {timeoutSec.fixedPoint 1}s."

def navigateToPose (answers : GoalAnswers) (pose : Pose) (timeoutSec : Floating) :
    Client NavigationResult := do
  let goal ← orRaise (goalMsg world pose answers.stamp)
  ask (.sendGoal goal) answers.sendGoal
  match ← orRaise answers.acceptance with
  | .pending =>
    return failedNavigation "NavigateToPose goal dispatch timed out before acceptance."
  | .done (some true) =>
    ask .getResult answers.getResult
    match ← orRaise answers.result with
    | .pending =>
      ask .cancelGoal answers.cancelGoal
      return timedOut timeoutSec
    | .done statusCode => return resultOf statusCode
  | .done _ => return failedNavigation "NavigateToPose goal was rejected."

end RosNav2Runtime

def GoalAnswers.Accepted (answers : GoalAnswers) : Prop :=
  answers.acceptance = .ok (.done (some true))

def GoalAnswers.Reached (answers : GoalAnswers) : Prop :=
  answers.Accepted ∧ answers.result = .ok (.done (some GoalStatus.succeeded))

structure Asked (world : Nav2World) (answers : GoalAnswers) (pose : Pose)
    (requests : List ClientAct) : Prop where
  sent : ∃ goal, RosNav2Runtime.goalMsg world pose answers.stamp = .ok goal ∧
    ∃ rest, requests = .sendGoal goal :: rest ∧ ∀ other, .sendGoal other ∉ rest
  result : .getResult ∈ requests ↔ answers.Accepted
  cancel : .cancelGoal ∈ requests ↔ answers.Accepted ∧ answers.result = .ok .pending

section Goals

variable {world : Nav2World} {answers : GoalAnswers} {pose : Pose} {timeoutSec : Floating}

end Goals

end Wms
