import AmrWarehouse.Fleet.HostCalls

/-! Every call keeps the tables in step with the memory, also the calls that bypass the dispatcher
and the controllers. -/

namespace Fleet

open Library

variable {env : Environment}

section Database

def RobotRegistry.Tabled (registry : RobotRegistry) : Prop := registry.host.db.isSome

def FleetDispatcher.Tabled (dispatcher : FleetDispatcher) : Prop := dispatcher.registry.Tabled

lemma lasting_isSome : Host.Lasting fun host => host.db.isSome := by
  intro host change h
  rwa [Option.isSome_map]

namespace FleetDispatcher

lemma tabled_of_host {α : Type} {call : Call FleetDispatcher α}
    (h : Preserves (HostHas (fun host => host.db.isSome) fun _ => True) call) :
    Preserves Tabled call :=
  fun dispatcher htabled =>
    (h dispatcher ⟨htabled, trivial⟩).mono (fun _ _ ht => ht.1) (fun _ ht => ht.1)

lemma tabled_setAssignmentStatus (taskId : ℤ) (status : AssignmentStatus)
    (timestamp : Option String) :
    Preserves Tabled (setAssignmentStatus env taskId status timestamp) :=
  tabled_of_host (host_setAssignmentStatus lasting_isSome taskId status timestamp)

lemma tabled_assignTask (task : DispatchTask) (now : Datetime) (heartbeatTimeoutSec : Floating)
    (penalties : Dict String ℚ) :
    Preserves Tabled (assignTask env task now heartbeatTimeoutSec penalties) :=
  tabled_of_host (host_assignTask env lasting_isSome (fun _ _ _ _ _ _ => trivial) task now
    heartbeatTimeoutSec penalties)

end FleetDispatcher

end Database

structure FleetDispatcher.Kept (env : Environment) (dispatcher : FleetDispatcher) : Prop where
  consistent : Consistent dispatcher.registry.robots
  stocked : ∃ robotId, (dispatcher.registry.robots.get? robotId).isSome
  backed : dispatcher.Backed env
  tabled : dispatcher.Tabled

namespace RobotRegistry

def Kept (env : Environment) (assignments : Dict ℤ AssignmentRecord) (registry : RobotRegistry) :
    Prop :=
  FleetDispatcher.Kept env ⟨registry, assignments, []⟩

variable {assignments : Dict ℤ AssignmentRecord}

lemma preserves_call (op : RegistryOp) : Preserves (Kept env assignments) (op.call env) := by
  intro registry h
  have hafter : ∀ after, after = final (op.call env) registry → Kept env assignments after := by
    intro after hfinal
    have houtcome := op.call_outcome h.backed.dependable
    rw [← hfinal] at houtcome
    cases houtcome with
    | same => exact h
    | @stored robot moved kept hget heffect hname hkept hdb =>
      have hkey : moved.robotId = op.robotId := hname.trans (h.consistent.named hget)
      refine ⟨?_, ⟨op.robotId, ?_⟩, h.backed.stored kept hkept hdb moved, ?_⟩
      · dsimp only
        rw [stored_robots, hkept, hkey]
        exact heffect.consistent h.consistent hget hname
      · simp [hkey]
      · rw [FleetDispatcher.Tabled, Tabled]
        rw [stored_db_isSome, hdb]
        exact h.tabled
  exact ends_self.mono (fun _ => hafter) hafter

end RobotRegistry

namespace FleetDispatcher

lemma preserves_onRegistry {α : Type} {call : Call RobotRegistry α}
    (h : ∀ assignments, Preserves (RobotRegistry.Kept env assignments) call) :
    Preserves (Kept env) (onRegistry call) := by
  intro dispatcher hkept
  rw [onRegistry, ends_focus]
  apply (h dispatcher.assignments dispatcher.registry
    ⟨hkept.consistent, hkept.stocked, hkept.backed, hkept.tabled⟩).mono
  · exact fun _ _ h => ⟨h.consistent, h.stocked, h.backed, h.tabled⟩
  · exact fun _ h => ⟨h.consistent, h.stocked, h.backed, h.tabled⟩

lemma Kept.of_robots_eq {dispatcher after : FleetDispatcher} (h : dispatcher.Kept env)
    (hrobots : after.registry.robots = dispatcher.registry.robots) (hbacked : after.Backed env)
    (htabled : after.Tabled) : after.Kept env := by
  refine ⟨?_, ?_, hbacked, htabled⟩
  · rw [hrobots]
    exact h.consistent
  · rw [hrobots]
    exact h.stocked

lemma Kept.takes {dispatcher after : FleetDispatcher} {taskId : ℤ} {taken : String}
    (h : dispatcher.Kept env)
    (htakes : Takes dispatcher.registry.robots after.registry.robots taken taskId)
    (hbacked : after.Backed env) (htabled : after.Tabled) : after.Kept env := by
  obtain ⟨robotId, hknown⟩ := h.stocked
  exact ⟨htakes.consistent h.consistent, ⟨robotId, htakes.known hknown⟩, hbacked, htabled⟩

lemma preserves_emitEvent (event : String) (taskId : Option ℤ)
    (robotId reason timestamp : Option String) :
    Preserves (Kept env) (emitEvent env event taskId robotId reason timestamp) := by
  intro dispatcher h
  apply ends_emitEvent
  intro _ after hsame
  have hboard := hsame.board_eq
  simp only [board, Board.mk.injEq] at hboard
  apply h.of_robots_eq hboard.1 (hsame.backed h.backed)
  rw [Tabled, RobotRegistry.Tabled]
  rw [hsame.db_eq]
  exact h.tabled

lemma preserves_setAssignmentStatus (taskId : ℤ) (status : AssignmentStatus)
    (timestamp : Option String) :
    Preserves (Kept env) (setAssignmentStatus env taskId status timestamp) := by
  intro dispatcher h
  have htabled : Ends (setAssignmentStatus env taskId status timestamp) dispatcher
      (fun _ after => after.Tabled) Tabled :=
    tabled_setAssignmentStatus taskId status timestamp dispatcher h.tabled
  cases hget : dispatcher.assignments.get? taskId with
  | none => simpa [setAssignmentStatus, hget] using h
  | some assignment =>
    obtain ⟨updated, after, hrun, _, _, _, hboard, hbacked⟩ :=
      run_setAssignmentStatus h.backed hget status timestamp
    simp only [board, Board.mk.injEq] at hboard
    apply ends_of_ok hrun
    apply h.of_robots_eq hboard.1 hbacked
    simpa only [Ends, hrun] using htabled

lemma preserves_assignTask (task : DispatchTask) (now : Datetime) (heartbeatTimeoutSec : Floating)
    (penalties : Dict String ℚ) :
    Preserves (Kept env) (assignTask env task now heartbeatTimeoutSec penalties) := by
  intro dispatcher h
  by_cases hcan : dispatcher.board.CanAssign env task now heartbeatTimeoutSec penalties
  · have htabled : Ends (assignTask env task now heartbeatTimeoutSec penalties) dispatcher
        (fun _ after => after.Tabled) Tabled := tabled_assignTask _ _ _ _ dispatcher h.tabled
    by_cases hconverts : env.Converts now
    · apply ((ends_assignTask h.backed h.consistent hcan hconverts).and htabled).mono
      · rintro assignment after ⟨⟨hbinds, hbacked⟩, hrows⟩
        exact h.takes hbinds.robot hbacked hrows
      · exact fun _ hfalse => hfalse.1.elim
    · obtain ⟨e, after, hrun, -, horphans, hbacked⟩ :=
        run_assignTask_orphans h.backed h.consistent hcan hconverts
      obtain ⟨robotId, htakes⟩ := horphans.robot
      exact ends_of_error hrun (h.takes htakes hbacked (htabled.of_error hrun))
  · obtain ⟨e, he⟩ := run_assignTask_refused hcan
    exact ends_of_error he h

lemma preserves_dispatchTasks (tasks : List DispatchTask) (now : Datetime)
    (heartbeatTimeoutSec : Floating) (penalties : Dict String ℚ) :
    Preserves (Kept env) (dispatchTasks env tasks now heartbeatTimeoutSec penalties) := by
  rw [dispatchTasks]
  induction tasks.insertionSort earlier with
  | nil => exact preserves_pure _
  | cons task tasks ih =>
    apply preserves_bind preserves_get
    intro dispatcher
    refine preserves_ite (fun _ => ih) (fun _ => ?_)
    apply preserves_bind (preserves_attempt (preserves_assignTask _ _ _ _))
    intro outcome
    cases outcome with
    | ok assignment => exact preserves_bind ih (fun _ => preserves_pure _)
    | error e => exact preserves_ite (fun _ => preserves_pure _) (fun _ => preserves_throw _)

end FleetDispatcher

namespace HaulTaskController

def Kept (env : Environment) (controller : HaulTaskController) : Prop :=
  controller.dispatcher.Kept env

lemma preserves_onDispatcher {α : Type} {call : Call FleetDispatcher α}
    (h : Preserves (FleetDispatcher.Kept env) call) :
    Preserves (Kept env) (onDispatcher call) :=
  preserves_focus h (fun _ hs => hs) (fun _ _ ht => ht)

lemma preserves_replaceSnapshot (change : HaulTaskSnapshot → HaulTaskSnapshot) :
    Preserves (Kept env) (replaceSnapshot change) :=
  preserves_modify fun _ hs => hs

lemma preserves_currentSnapshot : Preserves (Kept env) currentSnapshot :=
  preserves_bind preserves_get fun _ => preserves_pure _

lemma preserves_emit (event : String) (reason : Option String) :
    Preserves (Kept env) (emit env event reason) := by
  apply preserves_bind preserves_currentSnapshot
  intro snapshot
  apply preserves_bind (preserves_onDispatcher (FleetDispatcher.preserves_emitEvent _ _ _ _ _))
  intro fleetEvent
  exact preserves_modify fun _ hs => hs

lemma preserves_setWmsStatus (target : WmsTaskStatus) (reason : Option String) :
    Preserves (Kept env) (setWmsStatus target reason) := by
  apply preserves_bind preserves_currentSnapshot
  intro snapshot
  apply preserves_bind (preserves_orRaise _)
  exact fun _ => preserves_replaceSnapshot _

lemma preserves_setExecutionPhase (target : HaulExecutionPhase) (reason : Option String)
    (pickupCompleted : Option Bool) :
    Preserves (Kept env) (setExecutionPhase target reason pickupCompleted) := by
  apply preserves_bind preserves_currentSnapshot
  intro snapshot
  apply preserves_bind (preserves_orRaise _)
  exact fun _ => preserves_replaceSnapshot _

lemma preserves_syncAssignmentStatus (status : AssignmentStatus) :
    Preserves (Kept env) (syncAssignmentStatus env status) := by
  apply preserves_bind preserves_currentSnapshot
  intro snapshot
  apply preserves_bind preserves_get
  intro controller
  apply preserves_ite
  · exact fun _ => preserves_replaceSnapshot _
  · intro _
    apply preserves_bind
      (preserves_onDispatcher (FleetDispatcher.preserves_setAssignmentStatus _ _ _))
    exact fun _ => preserves_replaceSnapshot _

lemma preserves_onRegistry {α : Type} {call : Call RobotRegistry α}
    (h : ∀ assignments, Preserves (RobotRegistry.Kept env assignments) call) :
    Preserves (Kept env) (onRegistry call) :=
  preserves_onDispatcher (FleetDispatcher.preserves_onRegistry h)

lemma preserves_releaseRobot : Preserves (Kept env) (releaseRobot env) := by
  apply preserves_bind preserves_currentSnapshot
  intro snapshot
  cases snapshot.robotId with
  | none => exact preserves_pure ()
  | some robotId =>
    apply preserves_bind (preserves_onRegistry fun _ => RobotRegistry.preserves_getRobot robotId)
    intro robot
    apply preserves_ite
    · intro _
      apply preserves_bind
        (preserves_onRegistry fun _ => RobotRegistry.preserves_call (.releaseTask robotId))
      exact fun _ => preserves_pure _
    · exact fun _ => preserves_pure _

lemma preserves_assign (now : Datetime) (heartbeatTimeoutSec : Floating) :
    Preserves (Kept env) (assign env now heartbeatTimeoutSec) := by
  have hrobot : ∀ previousWms, Preserves (Kept env)
      (assignRobot env previousWms now heartbeatTimeoutSec) := by
    intro previousWms
    apply preserves_bind preserves_currentSnapshot
    intro snapshot
    apply preserves_bind (preserves_orRaise _)
    intro task
    apply preserves_bind
      (preserves_onDispatcher (FleetDispatcher.preserves_assignTask _ _ _ _))
    intro assignment
    apply preserves_bind (preserves_replaceSnapshot _)
    intro _
    apply preserves_bind (preserves_setWmsStatus _ _)
    intro _
    apply preserves_bind (preserves_whenever (preserves_emit _ _))
    exact fun _ => preserves_currentSnapshot
  apply preserves_bind preserves_currentSnapshot
  intro snapshot
  apply preserves_ite
  · exact fun _ => preserves_throw _
  · intro _
    apply preserves_bind (preserves_whenever (preserves_setExecutionPhase _ _ _))
    exact fun _ => hrobot _

lemma preserves_start : Preserves (Kept env) (start env) := by
  apply preserves_bind preserves_currentSnapshot
  intro snapshot
  cases snapshot.robotId with
  | none => exact preserves_throw _
  | some robotId =>
    apply preserves_bind (preserves_setWmsStatus _ _)
    intro _
    apply preserves_bind (preserves_syncAssignmentStatus _)
    intro _
    apply preserves_bind preserves_currentSnapshot
    intro current
    apply preserves_bind (preserves_setExecutionPhase _ _ _)
    intro _
    apply preserves_bind (preserves_emit _ _)
    intro _
    apply preserves_bind (preserves_onRegistry fun _ => RobotRegistry.preserves_getRobot robotId)
    intro robot
    refine preserves_bind (preserves_whenever ?_) (fun _ => preserves_currentSnapshot)
    apply preserves_bind
      (preserves_onRegistry fun _ => RobotRegistry.preserves_call (.markBusy robotId))
    exact fun _ => preserves_emit _ _

lemma preserves_fail (reason : String) : Preserves (Kept env) (fail env reason) := by
  apply preserves_bind preserves_currentSnapshot
  intro snapshot
  apply preserves_bind (preserves_whenever (preserves_setExecutionPhase _ _ _))
  intro _
  apply preserves_bind preserves_currentSnapshot
  intro second
  refine preserves_bind (preserves_whenever ?_) ?_
  · apply preserves_bind preserves_currentSnapshot
    intro current
    apply preserves_ite
    · exact fun _ => preserves_throw _
    · exact fun _ => preserves_setWmsStatus _ _
  · intro _
    apply preserves_bind preserves_currentSnapshot
    intro third
    apply preserves_bind (preserves_whenever (preserves_syncAssignmentStatus _))
    intro _
    apply preserves_bind preserves_releaseRobot
    exact fun _ => preserves_currentSnapshot

lemma preserves_arrive (simulateFailure : Bool) (station : HaulTaskSnapshot → String)
    (target : HaulExecutionPhase) (reason : String) :
    Preserves (Kept env) (arrive env simulateFailure station target reason) := by
  have hnavigate : Preserves (Kept env) (navigate env simulateFailure) := by
    apply preserves_bind preserves_currentSnapshot
    intro snapshot
    cases snapshot.robotId with
    | none => exact preserves_throw _
    | some robotId =>
      exact preserves_onRegistry fun _ =>
        RobotRegistry.preserves_navigateToPose (RobotRegistry.preserves_call (.markBusy robotId))
          simulateFailure
  apply preserves_bind hnavigate
  intro result
  apply preserves_ite
  · intro _
    apply preserves_bind preserves_currentSnapshot
    intro snapshot
    apply preserves_bind
      (preserves_onRegistry fun _ => RobotRegistry.preserves_call (.setCurrentStation _ _))
    intro _
    apply preserves_bind (preserves_setExecutionPhase _ _ _)
    intro _
    apply preserves_bind preserves_currentSnapshot
    intro current
    apply preserves_bind (preserves_emit _ _)
    exact fun _ => preserves_currentSnapshot
  · exact fun _ => preserves_fail _

lemma preserves_withdraw (refusal : String) (phase : HaulExecutionPhase)
    (wmsStatus : WmsTaskStatus) (status : AssignmentStatus) (reason : String) :
    Preserves (Kept env) (withdraw env refusal phase wmsStatus status reason) := by
  apply preserves_bind preserves_currentSnapshot
  intro snapshot
  apply preserves_ite
  · exact fun _ => preserves_throw _
  · intro _
    apply preserves_bind (preserves_setExecutionPhase _ _ _)
    intro _
    apply preserves_bind (preserves_setWmsStatus _ _)
    intro _
    apply preserves_bind preserves_currentSnapshot
    intro current
    apply preserves_bind (preserves_whenever (preserves_syncAssignmentStatus _))
    exact fun _ => preserves_releaseRobot

lemma preserves_call (op : HaulOp) : Preserves (Kept env) (op.call env) := by
  cases op with
  | assign now heartbeatTimeoutSec => exact preserves_assign now heartbeatTimeoutSec
  | start => exact preserves_start
  | completeNavigationToPickup simulateFailure =>
    apply preserves_bind preserves_currentSnapshot
    intro snapshot
    exact preserves_ite (fun _ => preserves_throw _) (fun _ => preserves_arrive _ _ _ _)
  | completePickup =>
    apply preserves_bind preserves_currentSnapshot
    intro snapshot
    apply preserves_ite
    · exact fun _ => preserves_throw _
    · intro _
      apply preserves_bind (preserves_setExecutionPhase _ _ _)
      intro _
      apply preserves_bind preserves_currentSnapshot
      intro current
      apply preserves_bind (preserves_emit _ _)
      exact fun _ => preserves_currentSnapshot
  | completeNavigationToDropoff simulateFailure =>
    apply preserves_bind preserves_currentSnapshot
    intro snapshot
    exact preserves_ite (fun _ => preserves_throw _) (fun _ => preserves_arrive _ _ _ _)
  | completeDropoff =>
    apply preserves_bind preserves_currentSnapshot
    intro snapshot
    apply preserves_ite
    · exact fun _ => preserves_throw _
    · intro _
      apply preserves_bind (preserves_setExecutionPhase _ _ _)
      intro _
      apply preserves_bind (preserves_setWmsStatus _ _)
      intro _
      apply preserves_bind (preserves_syncAssignmentStatus _)
      intro _
      apply preserves_bind preserves_releaseRobot
      intro _
      apply preserves_bind (preserves_emit _ _)
      exact fun _ => preserves_currentSnapshot
  | fail reason => exact preserves_fail reason
  | cancel reason =>
    apply preserves_bind (preserves_withdraw _ _ _ _ _)
    exact fun _ => preserves_currentSnapshot
  | requeue reason =>
    apply preserves_bind (preserves_withdraw _ _ _ _ _)
    intro _
    apply preserves_bind (preserves_replaceSnapshot _)
    intro _
    apply preserves_bind (preserves_emit _ _)
    exact fun _ => preserves_currentSnapshot

end HaulTaskController

namespace FleetState

def Kept (env : Environment) (fleet : FleetState) : Prop := fleet.dispatcher.Kept env

lemma preserves_onDispatcher {α : Type} {call : Call FleetDispatcher α}
    (h : Preserves (FleetDispatcher.Kept env) call) :
    Preserves (Kept env) (Fleet.onDispatcher call) :=
  preserves_focus h (fun _ hs => hs) (fun _ _ ht => ht)

lemma preserves_onController {α : Type} {call : Call HaulTaskController α} (taskId : ℤ)
    (haul : Haul) (h : Preserves (HaulTaskController.Kept env) call) :
    Preserves (Kept env) (onController taskId haul call) :=
  preserves_focus h (fun _ hs => hs) (fun _ _ ht => ht)

lemma preserves_onHaul (taskId : ℤ) (op : HaulOp) :
    Preserves (Kept env) (onHaul taskId (op.call env)) := by
  apply preserves_bind preserves_get
  intro fleet
  cases fleet.hauls.get? taskId with
  | none => exact preserves_throw _
  | some haul => exact preserves_onController taskId haul (HaulTaskController.preserves_call op)

lemma preserves_createHaul (taskId : ℤ) (pickupStation dropoffStation priority : String)
    (eventSink : Option (List FleetEvent)) :
    Preserves (Kept env)
      (createHaul env taskId pickupStation dropoffStation priority eventSink) := by
  apply preserves_bind preserves_get
  intro fleet
  refine preserves_ite (fun _ => preserves_throw _) (fun _ => ?_)
  apply preserves_bind (preserves_orRaise _)
  intro haul
  exact preserves_onController taskId haul (HaulTaskController.preserves_emit _ _)

lemma preserves_sweepTimedOut (timeoutSec : Floating) (haulTasks : List (ℤ × ℤ))
    (robot : RobotRecord) :
    Preserves (Kept env) (HeartbeatMonitor.sweepTimedOut env timeoutSec haulTasks robot) := by
  have htake : ∀ requeuedTaskId reassignmentBlocked, Preserves (Kept env)
      (HeartbeatMonitor.takeOffline env timeoutSec robot requeuedTaskId reassignmentBlocked) := by
    intro requeuedTaskId reassignmentBlocked
    apply preserves_bind (preserves_onDispatcher (FleetDispatcher.preserves_onRegistry fun _ =>
      RobotRegistry.preserves_call (.markOffline robot.robotId)))
    intro _
    apply preserves_bind (preserves_onDispatcher (FleetDispatcher.preserves_emitEvent _ _ _ _ _))
    exact fun _ => preserves_pure _
  apply preserves_bind (preserves_onDispatcher (FleetDispatcher.preserves_emitEvent _ _ _ _ _))
  intro _
  apply preserves_bind preserves_get
  intro fleet
  cases HeartbeatMonitor.boundHaul fleet haulTasks robot with
  | none => exact htake _ _
  | some bound =>
    refine preserves_ite (fun _ => htake _ _) (fun _ => ?_)
    apply preserves_bind (preserves_onController bound.1 bound.2
      (HaulTaskController.preserves_call (.requeue _)))
    exact fun _ => htake _ _

lemma preserves_sweep (now : Datetime) (timeoutSec : Floating) (haulTasks : List (ℤ × ℤ)) :
    Preserves (Kept env) (HeartbeatMonitor.sweep env now timeoutSec haulTasks) := by
  apply preserves_bind preserves_get
  intro fleet
  induction fleet.registry.listRobots with
  | nil => exact preserves_pure _
  | cons robot robots ih =>
    refine preserves_ite (fun _ => ih) (fun _ => ?_)
    apply preserves_bind (preserves_orRaise _)
    intro valid
    refine preserves_ite (fun _ => ih) (fun _ => ?_)
    apply preserves_bind (preserves_sweepTimedOut _ _ _)
    intro item
    exact preserves_bind ih (fun _ => preserves_pure _)

lemma preserves_reassignRequeued (haulTasks : List (ℤ × ℤ)) (now : Datetime)
    (timeoutSec : Floating) :
    Preserves (Kept env) (HeartbeatMonitor.reassignRequeued env haulTasks now timeoutSec) := by
  rw [HeartbeatMonitor.reassignRequeued]
  induction haulTasks.map Prod.snd with
  | nil => exact preserves_pure _
  | cons controller controllers ih =>
    apply preserves_bind preserves_get
    intro fleet
    refine preserves_ite (fun _ => ih) (fun _ => ?_)
    apply preserves_bind (preserves_onHaul controller (.assign now timeoutSec))
    intro assigned
    exact preserves_bind ih (fun _ => preserves_pure _)

lemma preserves_call (op : FleetOp) : Preserves (Kept env) (op.call env) := by
  cases op with
  | registry op =>
    exact preserves_bind (preserves_onDispatcher (FleetDispatcher.preserves_onRegistry fun _ =>
      RobotRegistry.preserves_call op)) (fun _ => preserves_pure _)
  | createHaul taskId pickupStation dropoffStation priority eventSink =>
    exact preserves_createHaul taskId pickupStation dropoffStation priority eventSink
  | haul taskId op =>
    exact preserves_bind (preserves_onHaul taskId op) (fun _ => preserves_pure _)
  | assignTask task now heartbeatTimeoutSec penalties =>
    exact preserves_bind (preserves_onDispatcher (FleetDispatcher.preserves_assignTask _ _ _ _))
      (fun _ => preserves_pure _)
  | dispatchTasks tasks now heartbeatTimeoutSec penalties =>
    exact preserves_bind (preserves_onDispatcher (FleetDispatcher.preserves_dispatchTasks _ _ _ _))
      (fun _ => preserves_pure _)
  | setAssignmentStatus taskId status timestamp =>
    exact preserves_bind
      (preserves_onDispatcher (FleetDispatcher.preserves_setAssignmentStatus _ _ _))
      (fun _ => preserves_pure _)
  | sweep now timeoutSec haulTasks =>
    exact preserves_bind (preserves_sweep now timeoutSec haulTasks) (fun _ => preserves_pure _)
  | reassignRequeued haulTasks now timeoutSec =>
    exact preserves_bind (preserves_reassignRequeued haulTasks now timeoutSec)
      (fun _ => preserves_pure _)

/-- Whatever is called on a kept fleet, in whatever order, it stays kept. -/
theorem Kept.runAll {fleet : FleetState} (h : fleet.Kept env) (ops : List FleetOp) :
    (runAll (step env) fleet ops).Kept env := by
  induction ops generalizing fleet with
  | nil => exact h
  | cons op ops ih => exact ih ((preserves_call op).final h)

end FleetState

end Fleet
