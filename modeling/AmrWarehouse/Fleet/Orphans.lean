import AmrWarehouse.Fleet.FleetRuns

/-! The calls that put a robot on a task and raise before its assignment is recorded. -/

namespace Fleet

open Library

def FleetState.nextTask (fleet : FleetState) (tasks : List DispatchTask) : Option DispatchTask :=
  (tasks.insertionSort FleetDispatcher.earlier).find? fun task =>
    (fleet.dispatcher.getAssignmentForTask task.taskId).isNone

def FleetState.nextRequeued (fleet : FleetState) (haulTasks : List (ℤ × ℤ)) : Option ℤ :=
  (haulTasks.map Prod.snd).find? fun controller =>
    decide ((fleet.snapshot? controller).map HaulTaskSnapshot.wmsStatus = some .requeued)

section Orphaning

variable (env : Environment) (fleet : FleetState)

def OrphansTask (task : DispatchTask) (now : Datetime) (heartbeatTimeoutSec : Floating)
    (penalties : Dict String ℚ) : Prop :=
  fleet.dispatcher.board.CanAssign env task now heartbeatTimeoutSec penalties ∧ ¬ env.Converts now

def OrphansHaul (taskId : ℤ) (op : HaulOp) : Prop :=
  ∃ snapshot, fleet.snapshot? taskId = some snapshot ∧
    op.Orphans env snapshot fleet.dispatcher.board

/-- The dispatcher finds a robot, but the moment of the call has no UTC datetime. -/
def OrphansRobot : FleetOp → Prop
  | .haul taskId op => OrphansHaul env fleet taskId op
  | .assignTask task now heartbeatTimeoutSec penalties =>
    OrphansTask env fleet task now heartbeatTimeoutSec penalties
  | .dispatchTasks tasks now heartbeatTimeoutSec penalties => ∃ task,
    fleet.nextTask tasks = some task ∧ OrphansTask env fleet task now heartbeatTimeoutSec penalties
  | .reassignRequeued haulTasks now timeoutSec => ∃ controller,
    fleet.nextRequeued haulTasks = some controller ∧
      OrphansHaul env fleet controller (.assign now timeoutSec)
  | _ => False

end Orphaning

section Steps

variable {env : Environment} {fleet : FleetState} {task : DispatchTask} {now : Datetime}
  {timeout : Floating} {penalties : Dict String ℚ}

lemma step_assignTask_refused
    (hcan : ¬ fleet.dispatcher.board.CanAssign env task now timeout penalties) :
    step env fleet (.assignTask task now timeout penalties) = fleet := by
  obtain ⟨e, hrun⟩ := FleetDispatcher.run_assignTask_refused hcan
  have hends : Ends ((FleetOp.assignTask task now timeout penalties).call env) fleet
      (fun _ after => after = fleet) (fun after => after = fleet) := by
    rw [FleetOp.call, ends_bind, onDispatcher, ends_focus]
    exact ends_of_error hrun rfl
  exact hends.final

lemma step_assignTask_orphans (h : Good env fleet)
    (horphans : OrphansTask env fleet task now timeout penalties) :
    Orphans fleet.dispatcher.board
      (step env fleet (.assignTask task now timeout penalties)).dispatcher.board task.taskId := by
  obtain ⟨e, dispatcher, hrun, -, hafter, -⟩ := FleetDispatcher.run_assignTask_orphans h.backed
    h.sound.consistent horphans.1 horphans.2
  have hends : Ends ((FleetOp.assignTask task now timeout penalties).call env) fleet
      (fun _ after => Orphans fleet.dispatcher.board after.dispatcher.board task.taskId)
      (fun after => Orphans fleet.dispatcher.board after.dispatcher.board task.taskId) := by
    rw [FleetOp.call, ends_bind, onDispatcher, ends_focus]
    exact ends_of_error hrun hafter
  exact hends.final

lemma final_dispatchLoop {dispatcher : FleetDispatcher} (hb : dispatcher.Backed env)
    (hc : Consistent dispatcher.registry.robots) (hconverts : ¬ env.Converts now)
    (tasks : List DispatchTask) :
    final (FleetDispatcher.dispatchLoop env now timeout penalties tasks) dispatcher =
      (tasks.find? fun task => (dispatcher.getAssignmentForTask task.taskId).isNone).elim
        dispatcher fun task =>
          final (FleetDispatcher.assignTask env task now timeout penalties) dispatcher := by
  induction tasks with
  | nil => rfl
  | cons task tasks ih =>
    rw [List.find?_cons]
    cases hheld : dispatcher.getAssignmentForTask task.taskId with
    | some held =>
      rw [Option.isNone_some, ← ih]
      apply final_congr
      simp [FleetDispatcher.dispatchLoop, hheld]
    | none =>
      rw [Option.isNone_none, Option.elim_some]
      have hraised : ∃ e after, (FleetDispatcher.assignTask env task now timeout penalties).run
          dispatcher = .error e after := by
        by_cases hcan : dispatcher.board.CanAssign env task now timeout penalties
        · obtain ⟨e, after, hrun, -⟩ :=
            FleetDispatcher.run_assignTask_orphans hb hc hcan hconverts
          exact ⟨e, after, hrun⟩
        · obtain ⟨e, hrun⟩ := FleetDispatcher.run_assignTask_refused hcan
          exact ⟨e, dispatcher, hrun⟩
      obtain ⟨e, after, hrun⟩ := hraised
      have hends : Ends (FleetDispatcher.dispatchLoop env now timeout penalties (task :: tasks))
          dispatcher (fun _ t => t = after) (fun t => t = after) := by
        simp only [FleetDispatcher.dispatchLoop, ends_bind, ends_get, hheld, Option.isSome_none,
          Bool.false_eq_true, if_false]
        apply ends_attempt_of_error hrun
        dsimp only
        split_ifs
        · rfl
        · rfl
      rw [final_of_error hrun]
      exact hends.final

lemma step_dispatchTasks (h : Good env fleet) (hconverts : ¬ env.Converts now)
    (tasks : List DispatchTask) :
    step env fleet (.dispatchTasks tasks now timeout penalties) =
      (fleet.nextTask tasks).elim fleet
        fun task => step env fleet (.assignTask task now timeout penalties) := by
  simp only [step, FleetOp.call, onDispatcher, final_forgotten, final_focus,
    FleetDispatcher.dispatchTasks, final_dispatchLoop h.backed h.sound.consistent hconverts,
    FleetState.nextTask]
  cases List.find? _ _ with
  | none => rfl
  | some task => rfl

lemma final_reassignLoop (h : Good env fleet) (hconverts : ¬ env.Converts now)
    (controllers : List ℤ) :
    final (HeartbeatMonitor.reassignLoop env now timeout controllers) fleet =
      (controllers.find? fun controller => decide
        ((fleet.snapshot? controller).map HaulTaskSnapshot.wmsStatus = some .requeued)).elim fleet
        fun controller => step env fleet (.haul controller (.assign now timeout)) := by
  induction controllers with
  | nil => rfl
  | cons controller controllers ih =>
    rw [List.find?_cons]
    by_cases hwms : (fleet.snapshot? controller).map HaulTaskSnapshot.wmsStatus = some .requeued
    · rw [decide_eq_true hwms, Option.elim_some]
      obtain ⟨snapshot, hget, hrequeued⟩ := Option.map_eq_some_iff.mp hwms
      have hraises : raises ((FleetOp.haul controller (.assign now timeout)).call env) fleet =
          true := by
        rw [← Bool.not_eq_false, returns_iff h hget]
        exact fun haccepts => hconverts haccepts.2
      rw [FleetOp.call, raises_forgotten] at hraises
      obtain ⟨e, after, hrun⟩ := exists_of_raises hraises
      have hloop : (HeartbeatMonitor.reassignLoop env now timeout (controller :: controllers)).run
          fleet = .error e after := by
        have hassign : (onHaul controller (HaulTaskController.assign env now timeout)).run fleet =
            .error e after := hrun
        simp [HeartbeatMonitor.reassignLoop, hget, hrequeued, hassign]
      rw [final_of_error hloop, step, FleetOp.call, final_forgotten, final_of_error hrun]
    · rw [decide_eq_false hwms, ← ih]
      apply final_congr
      simp only [HeartbeatMonitor.reassignLoop, EStateM.run_bind, EStateM.run_get, ne_eq, hwms,
        not_false_eq_true, if_true]

lemma step_reassignRequeued (h : Good env fleet) (hconverts : ¬ env.Converts now)
    (haulTasks : List (ℤ × ℤ)) :
    step env fleet (.reassignRequeued haulTasks now timeout) =
      (fleet.nextRequeued haulTasks).elim fleet
        fun controller => step env fleet (.haul controller (.assign now timeout)) := by
  rw [step, FleetOp.call, final_forgotten, HeartbeatMonitor.reassignRequeued,
    final_reassignLoop h hconverts]
  rfl

end Steps

end Fleet
