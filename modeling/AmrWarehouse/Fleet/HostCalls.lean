import AmrWarehouse.Fleet.FleetRuns

/-! What the calls of the registry and the dispatcher do to the host and to the event log. -/

namespace Fleet

open Library

def Host.Lasting (I : Host → Prop) : Prop :=
  ∀ host change, I host → I ⟨host.ticks + 1, host.db.map change⟩

variable {env : Environment} {I : Host → Prop}

namespace RobotRegistry

def HostHas (I : Host → Prop) (registry : RobotRegistry) : Prop := I registry.host

section Reading

variable {P : RobotRegistry → Prop}

lemma preserves_getRobot (robotId : String) : Preserves P (getRobot robotId) := by
  apply preserves_bind preserves_get
  intro registry
  cases registry.robots.get? robotId with
  | none => exact preserves_throw _
  | some robot => exact preserves_pure _

lemma preserves_navigateToPose {robotId : String} (hmark : Preserves P (markBusy env robotId))
    (simulateFailure : Bool) :
    Preserves P (SimulatedRobotContext.navigateToPose env robotId simulateFailure) := by
  have hready : Preserves P (SimulatedRobotContext.checkReadyGate robotId) := by
    apply preserves_bind (preserves_getRobot robotId)
    intro robot
    split_ifs <;> exact preserves_pure _
  have hanswer : ∀ failed success : NavigationResult, Preserves P
      (if simulateFailure then pure failed else pure success : Call RobotRegistry _) := by
    intro failed success
    exact preserves_ite (fun _ => preserves_pure _) (fun _ => preserves_pure _)
  apply preserves_bind hready
  intro ready
  refine preserves_ite (fun _ => ?_) (fun _ => preserves_pure _)
  apply preserves_bind (preserves_getRobot robotId)
  intro robot
  refine preserves_ite (fun _ => ?_) (fun _ => hanswer _ _)
  exact preserves_bind hmark (fun _ => hanswer _ _)

end Reading

section Lasting

variable (hI : Host.Lasting I)
include hI

lemma host_writeDb (change : FleetDb → FleetDb) : Preserves (HostHas I) (writeDb env change) := by
  intro registry h
  simp only [writeDb, ends_bind, ends_get]
  split_ifs
  · have hticked := hI registry.host id h
    rwa [Option.map_id] at hticked
  · exact hI registry.host change h

lemma host_nowTimestamp : Preserves (HostHas I) (nowTimestamp env) := by
  intro registry h
  have hticked := hI registry.host id h
  rw [Option.map_id] at hticked
  exact hticked

lemma host_orNow (timestamp : Option String) : Preserves (HostHas I) (orNow env timestamp) := by
  cases timestamp with
  | none => exact host_nowTimestamp hI
  | some ts => exact preserves_ite (fun _ => host_nowTimestamp hI) (fun _ => preserves_pure _)

lemma host_upsertRobot (robot : RobotRecord) : Preserves (HostHas I) (upsertRobot env robot) := by
  refine preserves_bind (preserves_modify ?_) ?_
  · exact fun _ h => h
  intro _
  apply preserves_bind preserves_get
  intro registry
  refine preserves_ite (fun _ => ?_) (fun _ => preserves_pure _)
  exact preserves_bind (host_writeDb hI _) (fun _ => preserves_pure _)

lemma host_transition (robotId : String) (targetState : RobotState) (given : Overrides) :
    Preserves (HostHas I) (transition env robotId targetState given) := by
  apply preserves_bind (preserves_getRobot robotId)
  intro robot
  apply preserves_bind (preserves_orRaise _)
  intro _
  exact preserves_bind (host_nowTimestamp hI) (fun _ => host_upsertRobot hI _)

lemma host_assignTask (robotId : String) (taskId : ℤ) :
    Preserves (HostHas I) (assignTask env robotId taskId) := by
  apply preserves_bind (preserves_getRobot robotId)
  intro robot
  refine preserves_ite (fun _ => preserves_throw _) (fun _ => ?_)
  refine preserves_ite (fun _ => preserves_throw _) (fun _ => ?_)
  exact preserves_ite (fun _ => preserves_throw _) (fun _ => host_transition hI _ _ _)

lemma host_markBusy (robotId : String) : Preserves (HostHas I) (markBusy env robotId) := by
  apply preserves_bind (preserves_getRobot robotId)
  intro robot
  exact preserves_ite (fun _ => preserves_throw _) (fun _ => host_transition hI _ _ _)

lemma host_releaseTask (robotId : String) : Preserves (HostHas I) (releaseTask env robotId) := by
  apply preserves_bind (preserves_getRobot robotId)
  intro robot
  exact preserves_ite (fun _ => preserves_throw _) (fun _ => host_transition hI _ _ _)

lemma host_setCurrentStation (robotId station : String) :
    Preserves (HostHas I) (setCurrentStation env robotId station) := by
  apply preserves_bind (preserves_getRobot robotId)
  intro robot
  exact preserves_bind (host_nowTimestamp hI) (fun _ => host_upsertRobot hI _)

lemma host_persistAssignment (assignment : AssignmentRecord) :
    Preserves (HostHas I) (persistAssignment env assignment) := by
  have hfetch : ∀ id, Preserves (HostHas I) (fetchAssignmentById env id) := by
    intro id
    apply preserves_bind preserves_get
    intro registry
    refine preserves_ite (fun _ => preserves_throw _) (fun _ => ?_)
    cases registry.host.db.bind (fun db => db.assignments.find? id) with
    | none => exact preserves_throw _
    | some row => exact preserves_orRaise _
  apply preserves_ite
  · intro _
    apply preserves_bind (host_writeDb hI _)
    intro _
    exact preserves_bind preserves_get (fun _ => hfetch _)
  · intro _
    exact preserves_bind (host_writeDb hI _) (fun _ => hfetch _)

end Lasting

end RobotRegistry

namespace FleetDispatcher

def HostHas (I : Host → Prop) (K : List FleetEvent → Prop) (dispatcher : FleetDispatcher) : Prop :=
  I dispatcher.registry.host ∧ K dispatcher.eventSink

variable {K : List FleetEvent → Prop}

lemma host_onRegistry {α : Type} {call : Call RobotRegistry α}
    (h : Preserves (RobotRegistry.HostHas I) call) : Preserves (HostHas I K) (onRegistry call) := by
  intro dispatcher hboth
  rw [onRegistry, ends_focus]
  refine (h dispatcher.registry hboth.1).mono ?_ ?_
  · exact fun _ _ ht => ⟨ht, hboth.2⟩
  · exact fun _ ht => ⟨ht, hboth.2⟩

section Lasting

variable (hI : Host.Lasting I)
include hI

lemma host_setAssignmentStatus (taskId : ℤ) (status : AssignmentStatus)
    (timestamp : Option String) :
    Preserves (HostHas I K) (setAssignmentStatus env taskId status timestamp) := by
  apply preserves_bind preserves_get
  intro dispatcher
  cases dispatcher.assignments.get? taskId with
  | none => exact preserves_throw _
  | some assignment =>
    apply preserves_bind (host_onRegistry (RobotRegistry.host_orNow hI _))
    intro updatedAt
    apply preserves_bind preserves_get
    intro current
    have hlast : ∀ updated, Preserves (HostHas I K) ((do
        modify fun dispatcher =>
          { dispatcher with assignments := dispatcher.assignments.set taskId updated }
        return updated) : Call FleetDispatcher AssignmentRecord) := by
      intro updated
      refine preserves_bind (preserves_modify ?_) (fun _ => preserves_pure _)
      exact fun _ h => h
    refine preserves_ite (fun _ => ?_) (fun _ => ?_)
    · exact preserves_bind (host_onRegistry (RobotRegistry.host_persistAssignment hI _)) hlast
    · exact preserves_bind (preserves_pure _) hlast

lemma host_emitEvent {event : String} {taskId : Option ℤ} {robotId reason : Option String}
    (hK : ∀ log ts, K log → K (log ++ [⟨ts, event, taskId, robotId, reason⟩]))
    (timestamp : Option String) :
    Preserves (HostHas I K) (emitEvent env event taskId robotId reason timestamp) := by
  apply preserves_bind (host_onRegistry (RobotRegistry.host_orNow hI _))
  intro ts
  refine preserves_bind (preserves_modify ?_) (fun _ => preserves_pure _)
  exact fun dispatcher h => ⟨h.1, hK _ ts h.2⟩

variable (env) in
lemma host_assignTask
    (hK : ∀ log ts taskId robotId reason,
      K log → K (log ++ [⟨ts, "TASK_ASSIGNED", taskId, robotId, reason⟩]))
    (task : DispatchTask) (now : Datetime) (heartbeatTimeoutSec : Floating)
    (penalties : Dict String ℚ) :
    Preserves (HostHas I K) (assignTask env task now heartbeatTimeoutSec penalties) := by
  apply preserves_bind preserves_get
  intro dispatcher
  cases dispatcher.getAssignmentForTask task.taskId with
  | some existing => exact preserves_throw _
  | none =>
    apply preserves_bind preserves_get
    intro current
    apply preserves_bind (preserves_orRaise _)
    intro choice
    cases choice with
    | none => exact preserves_throw _
    | some decision =>
      apply preserves_bind (host_onRegistry (RobotRegistry.host_assignTask hI _ _))
      intro _
      apply preserves_bind (preserves_orRaise _)
      intro utc
      apply preserves_bind preserves_get
      intro bound
      have hlast : ∀ assignment, Preserves (HostHas I K) (do
          modify fun dispatcher : FleetDispatcher =>
            { dispatcher with assignments := dispatcher.assignments.set task.taskId assignment }
          let _ ← emitEvent env "TASK_ASSIGNED" (some task.taskId) (some decision.robotId)
            (some decision.dispatchReason) (some (env.utcStamp utc))
          return assignment) := by
        intro assignment
        refine preserves_bind (preserves_modify ?_) (fun _ => ?_)
        · exact fun _ h => h
        · exact preserves_bind (host_emitEvent hI (fun log ts => hK log ts _ _ _) _)
            (fun _ => preserves_pure _)
      refine preserves_ite (fun _ => ?_) (fun _ => ?_)
      · exact preserves_bind (host_onRegistry (RobotRegistry.host_persistAssignment hI _)) hlast
      · exact preserves_bind (preserves_pure _) hlast

end Lasting

end FleetDispatcher

end Fleet
