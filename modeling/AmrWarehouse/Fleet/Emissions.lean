import AmrWarehouse.Fleet.HostCalls

/-! What an operation of a haul controller adds to the log of the dispatcher and to its own sink. -/

namespace Fleet

open Library

structure Announcement where
  event : String
  robotId : Option String
  reason : Option String
  deriving DecidableEq

namespace FleetEvent

def announcement (event : FleetEvent) : Announcement := ⟨event.event, event.robotId, event.reason⟩

def isEmitted (event : FleetEvent) : Bool := event.event ≠ "TASK_ASSIGNED"

end FleetEvent

def recordEvent (sink : List FleetEvent) (event : FleetEvent) : List FleetEvent :=
  if event ∈ sink then sink else sink ++ [event]

lemma recordEvent_fresh {sink new : List FleetEvent} (h : (sink ++ new).Nodup) :
    new.foldl recordEvent sink = sink ++ new := by
  induction new generalizing sink with
  | nil => rw [List.foldl_nil, List.append_nil]
  | cons event new ih =>
    have hfresh : event ∉ sink := by
      intro hmem
      rw [List.nodup_append] at h
      exact h.2.2 event hmem event List.mem_cons_self rfl
    rw [List.append_cons] at h
    rw [List.foldl_cons, recordEvent, if_neg hfresh, ih h, ← List.append_cons]

/-- What makes two snapshots those of one haul, carried by one robot. -/
structure HaulTaskSnapshot.Same (snapshot snapshot' : HaulTaskSnapshot) : Prop where
  task : snapshot'.taskId = snapshot.taskId
  pickup : snapshot'.pickupStation = snapshot.pickupStation
  dropoff : snapshot'.dropoffStation = snapshot.dropoffStation
  priority : snapshot'.priority = snapshot.priority
  robot : snapshot'.robotId = snapshot.robotId

namespace HaulTaskSnapshot

lemma Same.refl (snapshot : HaulTaskSnapshot) : snapshot.Same snapshot := ⟨rfl, rfl, rfl, rfl, rfl⟩

lemma Same.trans {snapshot snapshot' snapshot'' : HaulTaskSnapshot} (h : snapshot.Same snapshot')
    (h' : snapshot'.Same snapshot'') : snapshot.Same snapshot'' where
  task := h'.task.trans h.task
  pickup := h'.pickup.trans h.pickup
  dropoff := h'.dropoff.trans h.dropoff
  priority := h'.priority.trans h.priority
  robot := h'.robot.trans h.robot

end HaulTaskSnapshot

namespace HaulTaskController

def log (controller : HaulTaskController) : List FleetEvent := controller.dispatcher.eventSink

def ticks (controller : HaulTaskController) : ℕ := controller.dispatcher.registry.host.ticks

def emissions (controller controller' : HaulTaskController) : List FleetEvent :=
  (controller'.log.drop controller.log.length).filter FleetEvent.isEmitted

structure Quiet (controller controller' : HaulTaskController) : Prop where
  log_eq : controller'.log = controller.log
  sink_eq : controller'.haul.eventSink = controller.haul.eventSink
  ticks_le : controller.ticks ≤ controller'.ticks
  same : controller.haul.snapshot.Same controller'.haul.snapshot

structure Logs (env : Environment) (new : List FleetEvent)
    (controller controller' : HaulTaskController) : Prop where
  logged : controller'.log = controller.log ++ new
  recorded : controller'.haul.eventSink = controller.haul.eventSink.map fun sink =>
    (new.filter FleetEvent.isEmitted).foldl recordEvent sink
  stamped : ∀ event ∈ new.filter FleetEvent.isEmitted,
    event.taskId = some controller.haul.snapshot.taskId ∧
      ∃ n, controller.ticks ≤ n ∧ event.timestamp = env.utcStamp (env.clock n)
  ticks_le : controller.ticks ≤ controller'.ticks
  task_eq : controller'.haul.snapshot.taskId = controller.haul.snapshot.taskId

/-- The second state is reached from the first while some of these are announced, in this order. -/
def Adds (env : Environment) (said : List Announcement)
    (controller controller' : HaulTaskController) : Prop :=
  ∃ new, Logs env new controller controller' ∧
    ((new.filter FleetEvent.isEmitted).map FleetEvent.announcement).Sublist said

variable {env : Environment} {controller controller' controller'' : HaulTaskController}
variable {said said' : List Announcement}

lemma quiet_refl (controller : HaulTaskController) : Quiet controller controller :=
  ⟨rfl, rfl, le_rfl, rfl, rfl, rfl, rfl, rfl⟩

lemma Logs.emissions_eq {new : List FleetEvent} (h : Logs env new controller controller') :
    emissions controller controller' = new.filter FleetEvent.isEmitted := by
  rw [emissions, h.logged, List.drop_left]

lemma Logs.trans {new new' : List FleetEvent} (h : Logs env new controller controller')
    (h' : Logs env new' controller' controller'') :
    Logs env (new ++ new') controller controller'' where
  logged := by rw [h'.logged, h.logged, List.append_assoc]
  recorded := by
    rw [h'.recorded, h.recorded, Option.map_map]
    congr 1
    funext sink
    rw [Function.comp_apply, List.filter_append, List.foldl_append]
  stamped event hevent := by
    rw [List.filter_append, List.mem_append] at hevent
    rcases hevent with hold | hnew
    · exact h.stamped event hold
    · obtain ⟨htask, n, hn, hstamp⟩ := h'.stamped event hnew
      exact ⟨htask.trans (congrArg some h.task_eq), n, h.ticks_le.trans hn, hstamp⟩
  ticks_le := h.ticks_le.trans h'.ticks_le
  task_eq := h'.task_eq.trans h.task_eq

lemma Adds.trans (h : Adds env said controller controller')
    (h' : Adds env said' controller' controller'') :
    Adds env (said ++ said') controller controller'' := by
  obtain ⟨new, hnew, hsaid⟩ := h
  obtain ⟨new', hnew', hsaid'⟩ := h'
  refine ⟨new ++ new', hnew.trans hnew', ?_⟩
  rw [List.filter_append, List.map_append]
  exact hsaid.append hsaid'

lemma Adds.mono (h : Adds env said controller controller') (hsub : said.Sublist said') :
    Adds env said' controller controller' := by
  obtain ⟨new, hnew, hsaid⟩ := h
  exact ⟨new, hnew, hsaid.trans hsub⟩

variable (env) in
lemma Quiet.adds (h : Quiet controller controller') : Adds env [] controller controller' := by
  refine ⟨[], ⟨?_, ?_, by simp, h.ticks_le, h.same.task⟩, List.Sublist.refl _⟩
  · rw [h.log_eq, List.append_nil]
  · rw [h.sink_eq]
    exact Option.map_id'.symm

lemma Quiet.then (h : Quiet controller controller')
    (h' : Adds env said controller' controller'') : Adds env said controller controller'' :=
  (h.adds env).trans h'

lemma Adds.quiet (h : Adds env said controller controller') (h' : Quiet controller' controller'') :
    Adds env said controller controller'' := by
  have hall := h.trans (h'.adds env)
  rwa [List.append_nil] at hall

section Primitives

variable (env controller) in
lemma ends_emit_adds {event : String} (hevent : event ≠ "TASK_ASSIGNED")
    (reason : Option String) :
    Ends (emit env event reason) controller
      (fun _ t => Adds env [⟨event, controller.haul.snapshot.robotId, reason⟩] controller t ∧
        t.haul.snapshot = controller.haul.snapshot)
      (fun _ => False) := by
  have hemitted : FleetEvent.isEmitted ⟨env.utcStamp (env.clock controller.ticks), event,
      some controller.haul.snapshot.taskId, controller.haul.snapshot.robotId, reason⟩ = true :=
    decide_eq_true hevent
  refine ⟨⟨[⟨env.utcStamp (env.clock controller.ticks), event,
    some controller.haul.snapshot.taskId, controller.haul.snapshot.robotId, reason⟩], ?_, ?_⟩, rfl⟩
  · refine ⟨rfl, ?_, ?_, Nat.le_succ _, rfl⟩
    · rw [List.filter_singleton, hemitted]
      rfl
    · intro e he
      rw [List.filter_singleton, hemitted] at he
      rw [List.mem_singleton.mp he]
      exact ⟨rfl, _, le_rfl, rfl⟩
  · rw [List.filter_singleton, hemitted]
    rfl

lemma lasting_ticks (n : ℕ) : Host.Lasting fun host => n ≤ host.ticks :=
  fun _ _ h => h.trans (Nat.le_succ _)

lemma quiet_onDispatcher {α : Type} {call : Call FleetDispatcher α}
    (h : ∀ n log, Preserves (FleetDispatcher.HostHas (fun host => n ≤ host.ticks) (· = log)) call) :
    Preserves (Quiet controller) (onDispatcher call) := by
  intro s hs
  rw [ends_onDispatcher]
  refine (h controller.ticks controller.log s.dispatcher ⟨hs.ticks_le, hs.log_eq⟩).mono ?_ ?_
  · exact fun _ _ ht => ⟨ht.2, hs.sink_eq, ht.1, hs.same⟩
  · exact fun _ ht => ⟨ht.2, hs.sink_eq, ht.1, hs.same⟩

lemma quiet_onRegistry {α : Type} {call : Call RobotRegistry α}
    (h : ∀ n, Preserves (RobotRegistry.HostHas fun host => n ≤ host.ticks) call) :
    Preserves (Quiet controller) (onRegistry call) :=
  quiet_onDispatcher fun n _ => FleetDispatcher.host_onRegistry (h n)

lemma quiet_currentSnapshot : Preserves (Quiet controller) currentSnapshot :=
  preserves_bind preserves_get fun _ => preserves_pure _

lemma quiet_replaceSnapshot {change : HaulTaskSnapshot → HaulTaskSnapshot}
    (h : ∀ snapshot : HaulTaskSnapshot, snapshot.Same (change snapshot)) :
    Preserves (Quiet controller) (replaceSnapshot change) := by
  refine preserves_modify fun s hs => ⟨hs.log_eq, hs.sink_eq, hs.ticks_le, ?_⟩
  exact hs.same.trans (h s.haul.snapshot)

lemma quiet_setWmsStatus (target : WmsTaskStatus) (reason : Option String) :
    Preserves (Quiet controller) (setWmsStatus target reason) := by
  apply preserves_bind quiet_currentSnapshot
  intro snapshot
  apply preserves_bind (preserves_orRaise _)
  exact fun _ => quiet_replaceSnapshot fun _ => ⟨rfl, rfl, rfl, rfl, rfl⟩

lemma quiet_setExecutionPhase (target : HaulExecutionPhase) (reason : Option String)
    (pickupCompleted : Option Bool) :
    Preserves (Quiet controller) (setExecutionPhase target reason pickupCompleted) := by
  apply preserves_bind quiet_currentSnapshot
  intro snapshot
  apply preserves_bind (preserves_orRaise _)
  exact fun _ => quiet_replaceSnapshot fun _ => ⟨rfl, rfl, rfl, rfl, rfl⟩

lemma quiet_syncAssignmentStatus (status : AssignmentStatus) :
    Preserves (Quiet controller) (syncAssignmentStatus env status) := by
  apply preserves_bind quiet_currentSnapshot
  intro snapshot
  apply preserves_bind preserves_get
  intro s
  apply preserves_ite
  · exact fun _ => quiet_replaceSnapshot fun _ => ⟨rfl, rfl, rfl, rfl, rfl⟩
  · intro _
    apply preserves_bind (quiet_onDispatcher fun n _ =>
      FleetDispatcher.host_setAssignmentStatus (lasting_ticks n) _ _ _)
    exact fun _ => quiet_replaceSnapshot fun _ => ⟨rfl, rfl, rfl, rfl, rfl⟩

lemma quiet_releaseRobot : Preserves (Quiet controller) (releaseRobot env) := by
  apply preserves_bind quiet_currentSnapshot
  intro snapshot
  cases snapshot.robotId with
  | none => exact preserves_pure _
  | some robotId =>
    apply preserves_bind (quiet_onRegistry fun _ => RobotRegistry.preserves_getRobot _)
    intro robot
    refine preserves_ite (fun _ => ?_) (fun _ => preserves_pure _)
    exact preserves_bind (quiet_onRegistry fun n =>
      RobotRegistry.host_releaseTask (lasting_ticks n) _) (fun _ => preserves_pure _)

lemma quiet_fail (reason : String) : Preserves (Quiet controller) (fail env reason) := by
  apply preserves_bind quiet_currentSnapshot
  intro atFirst
  apply preserves_bind (preserves_whenever (quiet_setExecutionPhase _ _ _))
  intro _
  apply preserves_bind quiet_currentSnapshot
  intro moved
  apply preserves_bind
  · apply preserves_whenever
    apply preserves_bind quiet_currentSnapshot
    intro snapshot
    exact preserves_ite (fun _ => preserves_throw _) (fun _ => quiet_setWmsStatus _ _)
  intro _
  apply preserves_bind quiet_currentSnapshot
  intro failed
  apply preserves_bind (preserves_whenever (quiet_syncAssignmentStatus _))
  intro _
  exact preserves_bind quiet_releaseRobot (fun _ => quiet_currentSnapshot)

lemma quiet_withdraw (refusal : String) (phase : HaulExecutionPhase) (wmsStatus : WmsTaskStatus)
    (assignmentStatus : AssignmentStatus) (reason : String) :
    Preserves (Quiet controller)
      (withdraw env refusal phase wmsStatus assignmentStatus reason) := by
  apply preserves_bind quiet_currentSnapshot
  intro snapshot
  refine preserves_ite (fun _ => preserves_throw _) (fun _ => ?_)
  apply preserves_bind (quiet_setExecutionPhase _ _ _)
  intro _
  apply preserves_bind (quiet_setWmsStatus _ _)
  intro _
  apply preserves_bind quiet_currentSnapshot
  intro moved
  apply preserves_bind (preserves_whenever (quiet_syncAssignmentStatus _))
  exact fun _ => quiet_releaseRobot

end Primitives

section Operations

def chosenRobot (env : Environment) (controller : HaulTaskController) (now : Datetime)
    (heartbeatTimeoutSec : Floating) : Option String :=
  let snapshot := controller.haul.snapshot
  match DispatchTask.create snapshot.taskId snapshot.pickupStation (some snapshot.dropoffStation)
      snapshot.priority with
  | .ok task =>
    match FleetDispatcher.selectRobot env controller.dispatcher.registry task now
        heartbeatTimeoutSec Dict.empty with
    | .ok decision => decision.map DispatchDecision.robotId
    | .error _ => none
  | .error _ => none

def announcements (env : Environment) (controller : HaulTaskController) : HaulOp → List Announcement
  | .assign now heartbeatTimeoutSec =>
    if controller.haul.snapshot.wmsStatus = .requeued then
      (controller.chosenRobot env now heartbeatTimeoutSec).toList.map fun robotId =>
        ⟨"TASK_REASSIGNED", some robotId, some s!"reassigned to {robotId}"⟩
    else []
  | .start =>
    if .inProgress ∈ allowedWmsTransitions controller.haul.snapshot.wmsStatus then
      let pickupStation := controller.haul.snapshot.pickupStation
      [⟨"NAV_STARTED", controller.haul.snapshot.robotId, some s!"target={pickupStation}"⟩,
        ⟨"ROBOT_BUSY", controller.haul.snapshot.robotId, some "Haul navigation started."⟩]
    else []
  | .completeNavigationToPickup _ =>
    if controller.haul.snapshot.executionPhase = .navigatingToPickup then
      let pickupStation := controller.haul.snapshot.pickupStation
      [⟨"NAV_SUCCEEDED", controller.haul.snapshot.robotId, some s!"arrived={pickupStation}"⟩]
    else []
  | .completePickup =>
    if controller.haul.snapshot.executionPhase = .pickup then
      let dropoffStation := controller.haul.snapshot.dropoffStation
      [⟨"NAV_STARTED", controller.haul.snapshot.robotId, some s!"target={dropoffStation}"⟩]
    else []
  | .completeNavigationToDropoff _ =>
    if controller.haul.snapshot.executionPhase = .navigatingToDropoff then
      let dropoffStation := controller.haul.snapshot.dropoffStation
      [⟨"NAV_SUCCEEDED", controller.haul.snapshot.robotId, some s!"arrived={dropoffStation}"⟩]
    else []
  | .completeDropoff =>
    if controller.haul.snapshot.executionPhase = .dropoff then
      [⟨"TASK_SUCCEEDED", controller.haul.snapshot.robotId,
        some "pickup/dropoff haul completed."⟩]
    else []
  | .fail _ => []
  | .cancel _ => []
  | .requeue reason =>
    if .requeued ∈ allowedExecutionTransitions controller.haul.snapshot.executionPhase then
      [⟨"TASK_REQUEUED", none, some reason⟩]
    else []

def OnlyAdds (env : Environment) (said : List Announcement) {α : Type}
    (call : Call HaulTaskController α) (controller : HaulTaskController) : Prop :=
  Ends call controller (fun _ t => Adds env said controller t) (Adds env said controller)

variable {α β : Type} {m : Call HaulTaskController α} {f : α → Call HaulTaskController β}
variable {snapshot : HaulTaskSnapshot}

lemma onlyAdds_of_quiet (h : Preserves (Quiet controller) m) : OnlyAdds env said m controller := by
  refine (h controller (quiet_refl controller)).mono ?_ ?_
  · exact fun _ _ ht => (ht.adds env).mono (List.nil_sublist said)
  · exact fun _ ht => (ht.adds env).mono (List.nil_sublist said)

lemma onlyAdds_bind (h : OnlyAdds env said m controller)
    (hf : ∀ a t, m.run controller = .ok a t → OnlyAdds env said' (f a) t) :
    OnlyAdds env (said ++ said') (m >>= f) controller := by
  rw [OnlyAdds, ends_bind]
  rw [OnlyAdds, Ends] at h
  rw [Ends]
  cases hrun : m.run controller with
  | ok a t =>
    rw [hrun] at h
    exact Ends.mono (hf a t hrun) (fun _ _ ht => h.trans ht) (fun _ ht => h.trans ht)
  | error e t =>
    rw [hrun] at h
    exact h.mono (List.sublist_append_left said said')

lemma onlyAdds_bind_nil (h : OnlyAdds env [] m controller)
    (hf : ∀ a t, m.run controller = .ok a t → OnlyAdds env said (f a) t) :
    OnlyAdds env said (m >>= f) controller :=
  onlyAdds_bind h hf

lemma onlyAdds_currentSnapshot {f : HaulTaskSnapshot → Call HaulTaskController β}
    (h : OnlyAdds env said (f controller.haul.snapshot) controller) :
    OnlyAdds env said (currentSnapshot >>= f) controller := h

lemma onlyAdds_quiet (hsame : snapshot.Same controller.haul.snapshot)
    (h : Preserves (Quiet controller) m)
    (hf : ∀ a t, m.run controller = .ok a t → snapshot.Same t.haul.snapshot →
      OnlyAdds env said (f a) t) :
    OnlyAdds env said (m >>= f) controller := by
  refine onlyAdds_bind_nil (onlyAdds_of_quiet h) fun a t hrun => hf a t hrun ?_
  exact hsame.trans ((h controller (quiet_refl controller)).of_ok hrun).same

lemma onlyAdds_emit (hsame : snapshot.Same controller.haul.snapshot) {event : String}
    (hevent : event ≠ "TASK_ASSIGNED") {reason : Option String}
    {f : Unit → Call HaulTaskController β}
    (hf : ∀ t, snapshot.Same t.haul.snapshot → OnlyAdds env said (f ()) t) :
    OnlyAdds env (⟨event, snapshot.robotId, reason⟩ :: said) (emit env event reason >>= f)
      controller := by
  have hemit := ends_emit_adds env controller hevent reason
  rw [hsame.robot] at hemit
  have hadds : OnlyAdds env [⟨event, snapshot.robotId, reason⟩] (emit env event reason)
      controller := hemit.mono (fun _ _ ht => ht.1) (fun _ he => he.elim)
  refine onlyAdds_bind hadds fun _ t hrun => ?_
  have hkept := (hemit.of_ok hrun).2
  exact hf t (hkept ▸ hsame)

lemma allowed_of_setWmsStatus {target : WmsTaskStatus} {reason : Option String} {u : Unit}
    (h : (setWmsStatus target reason).run controller = .ok u controller') :
    target ∈ allowedWmsTransitions controller.haul.snapshot.wmsStatus := by
  by_contra hrefused
  have hraised : Ends (setWmsStatus target reason) controller (fun _ _ => False)
      (fun _ => True) := by
    rw [setWmsStatus, ends_bind, ends_currentSnapshot, assertWmsTransitionAllowed,
      if_neg hrefused]
    trivial
  exact hraised.of_ok h

lemma start_adds : OnlyAdds env (announcements env controller .start) (start env) controller := by
  have hrefl := HaulTaskSnapshot.Same.refl controller.haul.snapshot
  apply onlyAdds_currentSnapshot
  cases hrobot : controller.haul.snapshot.robotId with
  | none => exact onlyAdds_of_quiet (preserves_throw _)
  | some robotId =>
    refine onlyAdds_quiet hrefl (quiet_setWmsStatus _ _) fun _ t hrun ht => ?_
    rw [announcements, if_pos (allowed_of_setWmsStatus hrun)]
    refine onlyAdds_quiet ht (quiet_syncAssignmentStatus _) fun _ u _ hu => ?_
    apply onlyAdds_currentSnapshot
    rw [hu.pickup]
    refine onlyAdds_quiet hu (quiet_setExecutionPhase _ _ _) fun _ v _ hv => ?_
    refine onlyAdds_emit hv (by decide) fun w hw => ?_
    refine onlyAdds_quiet hw (quiet_onRegistry fun _ => RobotRegistry.preserves_getRobot _) ?_
    intro robot x _ hx
    rw [whenever]
    split_ifs
    · rw [bind_assoc]
      refine onlyAdds_quiet hx
        (quiet_onRegistry fun n => RobotRegistry.host_markBusy (lasting_ticks n) _) ?_
      intro _ y _ hy
      exact onlyAdds_emit hy (by decide) fun _ _ => onlyAdds_of_quiet quiet_currentSnapshot
    · exact onlyAdds_of_quiet (preserves_bind (preserves_pure _) fun _ => quiet_currentSnapshot)

lemma onlyAdds_inPhase {phase : HaulExecutionPhase} {e : FleetError}
    (h : OnlyAdds env said m controller) :
    OnlyAdds env (if controller.haul.snapshot.executionPhase = phase then said else [])
      (if controller.haul.snapshot.executionPhase ≠ phase then throw e else m) controller := by
  by_cases hphase : controller.haul.snapshot.executionPhase = phase
  · rwa [if_pos hphase, if_neg (not_not.mpr hphase)]
  · rw [if_neg hphase, if_pos hphase]
    exact onlyAdds_of_quiet (preserves_throw _)

lemma arrive_adds {simulateFailure : Bool} {station : HaulTaskSnapshot → String}
    {target : HaulExecutionPhase} {reason : String}
    (hstation : ∀ {snapshot snapshot'}, HaulTaskSnapshot.Same snapshot snapshot' →
      station snapshot' = station snapshot) :
    let stationName := station controller.haul.snapshot
    OnlyAdds env
      [⟨"NAV_SUCCEEDED", controller.haul.snapshot.robotId, some s!"arrived={stationName}"⟩]
      (arrive env simulateFailure station target reason) controller := by
  have hnavigate : ∀ c, Preserves (Quiet c) (navigate env simulateFailure) := by
    intro c
    apply preserves_bind quiet_currentSnapshot
    intro snapshot
    cases snapshot.robotId with
    | none => exact preserves_throw _
    | some robotId =>
      exact quiet_onRegistry fun n => RobotRegistry.preserves_navigateToPose
        (RobotRegistry.host_markBusy (lasting_ticks n) robotId) simulateFailure
  intro stationName
  refine onlyAdds_quiet (HaulTaskSnapshot.Same.refl _) (hnavigate _) fun result t _ ht => ?_
  split_ifs
  · apply onlyAdds_currentSnapshot
    refine onlyAdds_quiet ht
      (quiet_onRegistry fun n => RobotRegistry.host_setCurrentStation (lasting_ticks n) _ _) ?_
    intro _ u _ hu
    refine onlyAdds_quiet hu (quiet_setExecutionPhase _ _ _) fun _ v _ hv => ?_
    apply onlyAdds_currentSnapshot
    rw [hstation hv]
    exact onlyAdds_emit hv (by decide) fun _ _ => onlyAdds_of_quiet quiet_currentSnapshot
  · exact onlyAdds_of_quiet (quiet_fail _)

lemma completeNavigationToPickup_adds (simulateFailure : Bool) :
    OnlyAdds env (announcements env controller (.completeNavigationToPickup simulateFailure))
      (completeNavigationToPickup env simulateFailure) controller := by
  apply onlyAdds_currentSnapshot
  exact onlyAdds_inPhase (arrive_adds fun h => h.pickup)

lemma completeNavigationToDropoff_adds (simulateFailure : Bool) :
    OnlyAdds env (announcements env controller (.completeNavigationToDropoff simulateFailure))
      (completeNavigationToDropoff env simulateFailure) controller := by
  apply onlyAdds_currentSnapshot
  exact onlyAdds_inPhase (arrive_adds fun h => h.dropoff)

lemma completePickup_adds :
    OnlyAdds env (announcements env controller .completePickup) (completePickup env)
      controller := by
  apply onlyAdds_currentSnapshot
  apply onlyAdds_inPhase
  refine onlyAdds_quiet (HaulTaskSnapshot.Same.refl _) (quiet_setExecutionPhase _ _ _) ?_
  intro _ t _ ht
  apply onlyAdds_currentSnapshot
  rw [ht.dropoff]
  exact onlyAdds_emit ht (by decide) fun _ _ => onlyAdds_of_quiet quiet_currentSnapshot

lemma completeDropoff_adds :
    OnlyAdds env (announcements env controller .completeDropoff) (completeDropoff env)
      controller := by
  apply onlyAdds_currentSnapshot
  apply onlyAdds_inPhase
  refine onlyAdds_quiet (HaulTaskSnapshot.Same.refl _) (quiet_setExecutionPhase _ _ _) ?_
  intro _ t _ ht
  refine onlyAdds_quiet ht (quiet_setWmsStatus _ _) fun _ u _ hu => ?_
  refine onlyAdds_quiet hu (quiet_syncAssignmentStatus _) fun _ v _ hv => ?_
  refine onlyAdds_quiet hv quiet_releaseRobot fun _ w _ hw => ?_
  exact onlyAdds_emit hw (by decide) fun _ _ => onlyAdds_of_quiet quiet_currentSnapshot

lemma allowed_of_withdraw {refusal : String} {phase : HaulExecutionPhase}
    {wmsStatus : WmsTaskStatus} {assignmentStatus : AssignmentStatus} {reason : String} {u : Unit}
    (h : (withdraw env refusal phase wmsStatus assignmentStatus reason).run controller =
      .ok u controller') :
    phase ∈ allowedExecutionTransitions controller.haul.snapshot.executionPhase := by
  by_contra hrefused
  have hraised : Ends (withdraw env refusal phase wmsStatus assignmentStatus reason) controller
      (fun _ _ => False) (fun _ => True) := by
    rw [withdraw, ends_bind, ends_currentSnapshot]
    split_ifs
    · trivial
    · rw [ends_bind, setExecutionPhase, ends_bind, ends_currentSnapshot,
        assertExecutionTransitionAllowed, if_neg hrefused]
      trivial
  exact hraised.of_ok h

lemma onlyAdds_replaceSnapshot {change : HaulTaskSnapshot → HaulTaskSnapshot}
    (htask : (change controller.haul.snapshot).taskId = controller.haul.snapshot.taskId)
    {f : Unit → Call HaulTaskController β}
    (hf : ∀ t, t.haul.snapshot = change controller.haul.snapshot → OnlyAdds env said (f ()) t) :
    OnlyAdds env said (replaceSnapshot change >>= f) controller := by
  have hchange : Ends (replaceSnapshot change) controller
      (fun _ t => Adds env [] controller t ∧ t.haul.snapshot = change controller.haul.snapshot)
      (Adds env [] controller) := by
    refine ⟨⟨[], ⟨?_, ?_, by simp, le_rfl, htask⟩, List.Sublist.refl _⟩, rfl⟩
    · exact (List.append_nil _).symm
    · exact Option.map_id'.symm
  refine onlyAdds_bind_nil (hchange.mono (fun _ _ ht => ht.1) (fun _ ht => ht)) ?_
  exact fun _ t hrun => hf t (hchange.of_ok hrun).2

lemma requeue_adds (reason : String) :
    OnlyAdds env (announcements env controller (.requeue reason)) (requeue env reason)
      controller := by
  refine onlyAdds_quiet (HaulTaskSnapshot.Same.refl _) (quiet_withdraw _ _ _ _ _) ?_
  intro _ t hrun ht
  rw [announcements, if_pos (allowed_of_withdraw hrun)]
  refine onlyAdds_replaceSnapshot rfl fun u hu => ?_
  have hunbound : HaulTaskSnapshot.Same { t.haul.snapshot with robotId := none }
      u.haul.snapshot := hu ▸ .refl _
  exact onlyAdds_emit hunbound (by decide) fun _ _ => onlyAdds_of_quiet quiet_currentSnapshot

lemma ends_persistAssignment_robot {registry : RobotRegistry} (hdb : registry.host.db.isSome)
    {drafted : AssignmentRecord} (hid : drafted.id = 0) :
    Ends (persistAssignment env drafted) registry
      (fun assignment _ => assignment.robotId = drafted.robotId) (fun _ => True) := by
  obtain ⟨db, hdb⟩ := Option.isSome_iff_exists.mp hdb
  cases hw : env.writeFails registry.host.ticks with
  | false =>
    cases hr : env.readFails (registry.host.ticks + 1) with
    | false => exact ends_of_ok (FleetDispatcher.run_persistAssignment_new hw hr hdb hid) rfl
    | true =>
      rw [persistAssignment, if_pos hid, ends_bind]
      apply ends_of_ok (RobotRegistry.run_writeDb env hw _)
      rw [ends_bind, ends_get, fetchAssignmentById, ends_bind, ends_get]
      rw [if_pos (by exact hr)]
      trivial
  | true =>
    rw [persistAssignment, if_pos hid, ends_bind, RobotRegistry.writeDb, ends_bind, ends_get]
    dsimp only
    rw [if_pos hw]
    trivial

lemma ends_assignTask_robot {dispatcher : FleetDispatcher} (task : DispatchTask) (now : Datetime)
    (timeout : Floating) (penalties : Dict String ℚ) :
    Ends (FleetDispatcher.assignTask env task now timeout penalties) dispatcher
      (fun assignment _ => ∃ decision,
        FleetDispatcher.selectRobot env dispatcher.registry task now timeout penalties =
            .ok (some decision) ∧
          assignment.robotId = decision.robotId)
      (fun _ => True) := by
  rw [FleetDispatcher.assignTask, ends_bind, ends_get]
  cases dispatcher.getAssignmentForTask task.taskId with
  | some existing => trivial
  | none =>
    dsimp only
    rw [ends_bind, ends_get, ends_bind]
    cases hselect : FleetDispatcher.selectRobot env dispatcher.registry task now timeout
        penalties with
    | error e => trivial
    | ok choice =>
      rw [ends_orRaise_ok]
      cases choice with
      | none => trivial
      | some decision =>
        rw [ends_bind]
        refine ends_self.mono ?_ (fun _ _ => trivial)
        intro _ bound _
        rw [ends_bind]
        refine ends_orRaise (fun utc _ => ?_) (fun _ _ => trivial)
        rw [ends_bind, ends_get]
        have hlast : ∀ (assignment : AssignmentRecord) (stored : FleetDispatcher),
            assignment.robotId = decision.robotId →
            Ends (do
              modify fun dispatcher : FleetDispatcher =>
                { dispatcher with assignments := dispatcher.assignments.set task.taskId assignment }
              let _ ← FleetDispatcher.emitEvent env "TASK_ASSIGNED" (some task.taskId)
                (some decision.robotId) (some decision.dispatchReason) (some (env.utcStamp utc))
              return assignment) stored
              (fun assignment _ => ∃ decision', Except.ok (some decision) =
                (.ok (some decision') : Except FleetError _) ∧
                  assignment.robotId = decision'.robotId) (fun _ => True) := by
          intro assignment stored hrobot
          rw [ends_bind, ends_modify, ends_bind]
          exact ends_self.mono (fun _ _ _ => ⟨decision, rfl, hrobot⟩) (fun _ _ => trivial)
        split_ifs with hdb
        · rw [ends_bind, FleetDispatcher.onRegistry, ends_focus]
          refine (ends_persistAssignment_robot hdb rfl).mono ?_ (fun _ _ => trivial)
          exact fun assignment _ hrobot => hlast assignment _ hrobot
        · rw [ends_bind, ends_pure]
          exact hlast _ bound rfl

variable (env controller) in
lemma assignTask_adds (task : DispatchTask) (now : Datetime) (timeout : Floating) :
    Ends (onDispatcher (FleetDispatcher.assignTask env task now timeout Dict.empty)) controller
      (fun assignment t => Adds env [] controller t ∧ t.haul = controller.haul ∧
        ∃ decision, FleetDispatcher.selectRobot env controller.dispatcher.registry task now timeout
            Dict.empty = .ok (some decision) ∧ assignment.robotId = decision.robotId)
      (Adds env [] controller) := by
  have hadds : ∀ dispatcher : FleetDispatcher, FleetDispatcher.HostHas
      (fun host => controller.ticks ≤ host.ticks)
      (fun log => ∃ new, log = controller.log ++ new ∧ ∀ e ∈ new, e.event = "TASK_ASSIGNED")
      dispatcher → Adds env [] controller ⟨dispatcher, controller.haul⟩ := by
    rintro dispatcher ⟨hticks, new, hnew, hassigned⟩
    have hfilter : new.filter FleetEvent.isEmitted = [] := by
      rw [List.filter_eq_nil_iff]
      intro e he
      simp [FleetEvent.isEmitted, hassigned e he]
    refine ⟨new, ⟨hnew, ?_, by simp [hfilter], hticks, rfl⟩, by rw [hfilter]; rfl⟩
    rw [hfilter]
    exact Option.map_id'.symm
  rw [ends_onDispatcher]
  have hlogs := FleetDispatcher.host_assignTask env (lasting_ticks controller.ticks)
    (K := fun log => ∃ new, log = controller.log ++ new ∧ ∀ e ∈ new, e.event = "TASK_ASSIGNED")
    ?_ task now timeout Dict.empty controller.dispatcher ⟨le_rfl, [], by simp [log], by simp⟩
  · refine (hlogs.and (ends_assignTask_robot task now timeout Dict.empty)).mono ?_ ?_
    · exact fun _ t ht => ⟨hadds t ht.1, rfl, ht.2⟩
    · exact fun t ht => hadds t ht.1
  · rintro _ ts taskId robotId reason ⟨new, rfl, hnew⟩
    refine ⟨new ++ [⟨ts, "TASK_ASSIGNED", taskId, robotId, reason⟩],
      List.append_assoc .., ?_⟩
    intro e he
    rcases List.mem_append.mp he with hold | hlast
    · exact hnew e hold
    · rw [List.mem_singleton.mp hlast]

lemma chosenRobot_congr (hsame : controller.haul.snapshot.Same controller'.haul.snapshot)
    (hdispatcher : controller'.dispatcher = controller.dispatcher) (now : Datetime)
    (timeout : Floating) :
    controller'.chosenRobot env now timeout = controller.chosenRobot env now timeout := by
  simp only [chosenRobot, hsame.task, hsame.pickup, hsame.dropoff, hsame.priority, hdispatcher]

lemma assignRobot_adds (previousWms : WmsTaskStatus) (now : Datetime) (timeout : Floating) :
    OnlyAdds env
      (if previousWms = .requeued then
        (controller.chosenRobot env now timeout).toList.map fun robotId =>
          ⟨"TASK_REASSIGNED", some robotId, some s!"reassigned to {robotId}"⟩
      else [])
      (assignRobot env previousWms now timeout) controller := by
  apply onlyAdds_currentSnapshot
  cases hcreate : DispatchTask.create controller.haul.snapshot.taskId
      controller.haul.snapshot.pickupStation (some controller.haul.snapshot.dropoffStation)
      controller.haul.snapshot.priority with
  | error e => exact onlyAdds_of_quiet (preserves_throw _)
  | ok task =>
    have htask := assignTask_adds env controller task now timeout
    refine onlyAdds_bind_nil (m := onDispatcher _)
      (htask.mono (fun _ _ ht => ht.1) (fun _ ht => ht)) fun assignment t hrun => ?_
    obtain ⟨-, hhaul, decision, hselect, hrobot⟩ := htask.of_ok hrun
    have hchosen : controller.chosenRobot env now timeout = some assignment.robotId := by
      rw [chosenRobot, hcreate]
      dsimp only
      rw [hselect, hrobot]
      rfl
    refine onlyAdds_replaceSnapshot rfl fun u hu => ?_
    have hbound : HaulTaskSnapshot.Same
        { t.haul.snapshot with
          robotId := some assignment.robotId
          assignmentStatus := some assignment.status }
        u.haul.snapshot := hu ▸ .refl _
    refine onlyAdds_quiet hbound (quiet_setWmsStatus _ _) fun _ v _ hv => ?_
    rw [whenever]
    by_cases hagain : previousWms = .requeued
    · rw [if_pos hagain, if_pos hagain, hchosen, Option.toList_some, List.map_singleton]
      have hevent : "TASK_REASSIGNED" ≠ "TASK_ASSIGNED" := by decide
      exact onlyAdds_emit hv hevent fun _ _ => onlyAdds_of_quiet quiet_currentSnapshot
    · rw [if_neg hagain, if_neg hagain]
      exact onlyAdds_of_quiet (preserves_bind (preserves_pure _) fun _ => quiet_currentSnapshot)

lemma assign_adds (now : Datetime) (timeout : Floating) :
    OnlyAdds env (announcements env controller (.assign now timeout)) (assign env now timeout)
      controller := by
  have hkeeps : Preserves (fun t => t.dispatcher = controller.dispatcher)
      (whenever (controller.haul.snapshot.wmsStatus = .requeued)
        (setExecutionPhase .idle (some "Reset execution after requeue.") (some false))) := by
    apply preserves_whenever
    apply preserves_bind (preserves_bind preserves_get fun _ => preserves_pure _)
    intro snapshot
    exact preserves_bind (preserves_orRaise _) fun _ => preserves_modify fun _ h => h
  apply onlyAdds_currentSnapshot
  dsimp only
  split_ifs
  · refine onlyAdds_quiet (HaulTaskSnapshot.Same.refl _)
      (preserves_whenever (quiet_setExecutionPhase _ _ _)) fun _ t hrun ht => ?_
    have hdispatcher := (hkeeps controller rfl).of_ok hrun
    rw [announcements, ← chosenRobot_congr ht hdispatcher]
    exact assignRobot_adds _ now timeout
  · exact onlyAdds_of_quiet (preserves_throw _)

variable (env controller) in
lemma call_adds (op : HaulOp) :
    OnlyAdds env (announcements env controller op) (op.call env) controller := by
  cases op with
  | assign now timeout => exact assign_adds now timeout
  | start => exact start_adds
  | completeNavigationToPickup simulateFailure =>
    exact completeNavigationToPickup_adds simulateFailure
  | completePickup => exact completePickup_adds
  | completeNavigationToDropoff simulateFailure =>
    exact completeNavigationToDropoff_adds simulateFailure
  | completeDropoff => exact completeDropoff_adds
  | fail reason => exact onlyAdds_of_quiet (quiet_fail reason)
  | cancel reason =>
    exact onlyAdds_of_quiet (preserves_bind (quiet_withdraw _ _ _ _ _) fun _ =>
      quiet_currentSnapshot)
  | requeue reason => exact requeue_adds reason

end Operations

end HaulTaskController

end Fleet
