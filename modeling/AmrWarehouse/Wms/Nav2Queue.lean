import AmrWarehouse.Wms.Nav2Runtime
import AmrWarehouse.Wms.QueueDrain

/-! The queue runner on Nav2: what the rows of the tasks tell of the goals sent for them. -/

namespace Wms

open Library RosNav2Runtime

structure GateOpen (gate : GateAnswers) : Prop where
  active : ∀ node ∈ requiredLifecycleNodes, getLifecycleState (gate.lifecycle node) = .ok "active"
  transform : mapToOdomAvailable gate.transforms = .ok true
  actionServer : gate.waitForServer = .ok true

/-- What the row of a task and the client tell of the goal with this number. -/
structure Tells (world : Nav2World) (timeoutSec : Floating) (file : Except WmsError TaskPoints)
    (finish : TaskTable) (task : Task) (goal : Pose × ℕ) : Prop where
  target : ∃ resolved, resolveTargetPose task.2.targetName file = .ok (resolved, goal.1)
  asked : Asked world (world.goal goal.2) goal.1
    (final (RosNav2Runtime.navigateToPose world (world.goal goal.2) goal.1 timeoutSec) [])
  row : ∃ row, finish.find? task.1 = some row ∧
    (row.status = .succeeded ↔ (world.goal goal.2).Reached) ∧
    (row.status = .failed ↔ ¬ (world.goal goal.2).Reached)

section Queue

variable {world : Nav2World} {timeoutSec : Floating} {around : Surroundings} {finish : TaskTable}
  {tasks : List Task} {poses : List Pose} {n : ℕ}

lemma inactiveNode_of_active {gate : GateAnswers} {nodes : List String}
    (h : ∀ node ∈ nodes, getLifecycleState (gate.lifecycle node) = .ok "active") :
    inactiveNode gate nodes = .ok none := by
  induction nodes with
  | nil => rfl
  | cons node nodes ih =>
    obtain ⟨hactive, hrest⟩ := List.forall_mem_cons.mp h
    rw [inactiveNode, hactive]
    exact ih hrest

lemma GateOpen.ready {gate : GateAnswers} (h : GateOpen gate) (actionName : String) :
    RosNav2Runtime.checkReadyGate actionName gate = .ok ⟨true, "ready gate satisfied"⟩ := by
  rw [RosNav2Runtime.checkReadyGate, inactiveNode_of_active h.active, h.transform, h.actionServer]
  rfl

end Queue

end Wms
