import AmrWarehouse.Fleet.DispatcherCalls
import AmrWarehouse.Fleet.HaulMoves

/-! Every operation of a haul controller is a move. -/

namespace Fleet

open Library

namespace HaulTaskController

structure At (env : Environment) (controller : HaulTaskController) (snapshot : HaulTaskSnapshot)
    (board : Board) : Prop where
  snapshot_eq : controller.haul.snapshot = snapshot
  board_eq : controller.dispatcher.board = board
  backed : controller.dispatcher.Backed env

section Helpers

variable {env : Environment} {controller : HaulTaskController} {snapshot : HaulTaskSnapshot}
  {board : Board} {Q : Unit → HaulTaskController → Prop} {E : HaulTaskController → Prop}

lemma At.robots_eq (h : At env controller snapshot board) :
    controller.dispatcher.registry.robots = board.robots :=
  congrArg Board.robots h.board_eq

lemma At.assignments_eq (h : At env controller snapshot board) :
    controller.dispatcher.assignments = board.assignments :=
  congrArg Board.assignments h.board_eq

lemma At.put (h : At env controller snapshot board) (moved : RobotRecord) {robotId : String}
    (hname : moved.robotId = robotId) :
    At env ⟨{ controller.dispatcher with
        registry := controller.dispatcher.registry.put env moved }, controller.haul⟩ snapshot
      ⟨board.robots.set robotId (controller.dispatcher.registry.stamped env moved),
        board.assignments⟩ where
  snapshot_eq := h.snapshot_eq
  board_eq := by
    simp only [FleetDispatcher.board, RobotRegistry.put_robots, h.robots_eq, h.assignments_eq,
      hname]
  backed := h.backed.put moved

@[simp] lemma ends_currentSnapshot {Q : HaulTaskSnapshot → HaulTaskController → Prop} :
    Ends currentSnapshot controller Q E ↔ Q controller.haul.snapshot controller := Iff.rfl

@[simp] lemma ends_replaceSnapshot (change : HaulTaskSnapshot → HaulTaskSnapshot) :
    Ends (replaceSnapshot change) controller Q E ↔
      Q () { controller with
        haul := { controller.haul with snapshot := change controller.haul.snapshot } } := Iff.rfl

lemma ends_onDispatcher {α : Type} {call : Call FleetDispatcher α}
    {Q : α → HaulTaskController → Prop} :
    Ends (onDispatcher call) controller Q E ↔
      Ends call controller.dispatcher (fun a dispatcher => Q a ⟨dispatcher, controller.haul⟩)
        (fun dispatcher => E ⟨dispatcher, controller.haul⟩) :=
  ends_focus _ _

lemma ends_onRegistry {α : Type} {call : Call RobotRegistry α}
    {Q : α → HaulTaskController → Prop} :
    Ends (onRegistry call) controller Q E ↔
      Ends call controller.dispatcher.registry
        (fun a registry => Q a ⟨{ controller.dispatcher with registry := registry },
          controller.haul⟩)
        (fun registry => E ⟨{ controller.dispatcher with registry := registry },
          controller.haul⟩) := by
  rw [onRegistry, ends_onDispatcher, FleetDispatcher.onRegistry, ends_focus]

lemma ends_emit (h : At env controller snapshot board) {event : String} {reason : Option String}
    (hq : ∀ after, At env after snapshot board → Q () after) :
    Ends (emit env event reason) controller Q E := by
  simp only [emit, ends_bind, ends_currentSnapshot, ends_onDispatcher]
  apply FleetDispatcher.ends_emitEvent
  intro fleetEvent after hsame
  rw [ends_modify]
  apply hq
  exact ⟨h.snapshot_eq, hsame.board_eq.trans h.board_eq, hsame.backed h.backed⟩

lemma ends_setWmsStatus (h : At env controller snapshot board) {target : WmsTaskStatus}
    {reason : Option String} (hall : target ∈ allowedWmsTransitions snapshot.wmsStatus)
    (hq : ∀ after, At env after { snapshot with wmsStatus := target, reason := reason } board →
      Q () after) :
    Ends (setWmsStatus target reason) controller Q E := by
  simp only [setWmsStatus, ends_bind, ends_currentSnapshot, h.snapshot_eq,
    assertWmsTransitionAllowed, hall, if_true, ends_orRaise_ok, ends_replaceSnapshot]
  apply hq
  exact ⟨rfl, h.board_eq, h.backed⟩

lemma ends_setWmsStatus_refused (h : At env controller snapshot board) {target : WmsTaskStatus}
    {reason : Option String} (hall : target ∉ allowedWmsTransitions snapshot.wmsStatus)
    (he : E controller) : Ends (setWmsStatus target reason) controller Q E := by
  simpa only [setWmsStatus, ends_bind, ends_currentSnapshot, h.snapshot_eq,
    assertWmsTransitionAllowed, hall, if_false, ends_orRaise_error] using he

lemma ends_setExecutionPhase (h : At env controller snapshot board) {target : HaulExecutionPhase}
    {reason : Option String} {pickupCompleted : Option Bool}
    (hall : target ∈ allowedExecutionTransitions snapshot.executionPhase)
    (hq : ∀ after, At env after
      { snapshot with
        executionPhase := target
        reason := reason
        pickupCompleted := pickupCompleted.getD snapshot.pickupCompleted } board → Q () after) :
    Ends (setExecutionPhase target reason pickupCompleted) controller Q E := by
  simp only [setExecutionPhase, ends_bind, ends_currentSnapshot, h.snapshot_eq,
    assertExecutionTransitionAllowed, hall, if_true, ends_orRaise_ok, ends_replaceSnapshot]
  apply hq
  exact ⟨rfl, h.board_eq, h.backed⟩

lemma ends_setExecutionPhase_refused (h : At env controller snapshot board)
    {target : HaulExecutionPhase} {reason : Option String} {pickupCompleted : Option Bool}
    (hall : target ∉ allowedExecutionTransitions snapshot.executionPhase) (he : E controller) :
    Ends (setExecutionPhase target reason pickupCompleted) controller Q E := by
  simpa only [setExecutionPhase, ends_bind, ends_currentSnapshot, h.snapshot_eq,
    assertExecutionTransitionAllowed, hall, if_false, ends_orRaise_error] using he

lemma ends_syncAssignmentStatus (h : At env controller snapshot board)
    {assignment : AssignmentRecord}
    (hget : board.assignments.get? snapshot.taskId = some assignment) {status : AssignmentStatus}
    (hq : ∀ after assignments, Syncs board.assignments assignments snapshot.taskId status →
      At env after { snapshot with assignmentStatus := some status }
        ⟨board.robots, assignments⟩ → Q () after) :
    Ends (syncAssignmentStatus env status) controller Q E := by
  have hrecord : controller.dispatcher.assignments.get? snapshot.taskId = some assignment := by
    rw [h.assignments_eq, hget]
  obtain ⟨updated, after, hrun, hstatus, hrobot, _, hboard, hbacked⟩ :=
    FleetDispatcher.run_setAssignmentStatus h.backed hrecord status none
  simp only [syncAssignmentStatus, ends_bind, ends_currentSnapshot, h.snapshot_eq, ends_get,
    FleetDispatcher.getAssignmentRecord, hrecord, reduceCtorEq, if_false, ends_onDispatcher]
  apply ends_of_ok hrun
  rw [ends_replaceSnapshot, hstatus]
  apply hq _ (board.assignments.set snapshot.taskId updated)
  · exact ⟨assignment, updated, hget, hstatus, hrobot, rfl⟩
  · refine ⟨by rw [h.snapshot_eq], ?_, hbacked⟩
    rw [hboard, h.robots_eq, h.assignments_eq]

lemma ends_releaseRobot (h : At env controller snapshot board) (hc : Consistent board.robots)
    {robotId : String} (hrobot : snapshot.robotId = some robotId)
    (hknown : (board.robots.get? robotId).isSome)
    (hq : ∀ after robots, Frees board.robots robots robotId →
      At env after snapshot ⟨robots, board.assignments⟩ → Q () after) :
    Ends (releaseRobot env) controller Q E := by
  obtain ⟨robot, hget⟩ := Option.isSome_iff_exists.mp hknown
  have hreg : controller.dispatcher.registry.robots.get? robotId = some robot := by
    rw [h.robots_eq, hget]
  simp only [releaseRobot, ends_bind, ends_currentSnapshot, h.snapshot_eq, hrobot,
    ends_onRegistry]
  apply ends_of_ok (RobotRegistry.run_getRobot hreg)
  split_ifs with hactive
  · have hname : robot.robotId = robotId := hc.named hget
    let freed : RobotRecord := { robot with state := .idle, currentTaskId := none }
    let moved := controller.dispatcher.registry.stamped env freed
    simp only [ends_bind, ends_onRegistry]
    apply ends_of_ok (RobotRegistry.run_releaseTask env h.backed.dependable hreg hactive)
    rw [ends_pure]
    apply hq _ (board.robots.set robotId moved)
    · exact ⟨robot, hget, .inr ⟨hactive, moved, rfl, rfl, rfl, rfl⟩⟩
    · exact h.put freed hname
  · rw [ends_pure]
    apply hq
    · exact ⟨robot, hget, .inl ⟨hactive, rfl⟩⟩
    · exact h

lemma ends_releaseRobot_none (h : At env controller snapshot board)
    (hrobot : snapshot.robotId = none) (hq : Q () controller) :
    Ends (releaseRobot env) controller Q E := by
  simpa only [releaseRobot, ends_bind, ends_currentSnapshot, h.snapshot_eq, hrobot, ends_pure]
    using hq

lemma ends_markBusy (h : At env controller snapshot board) (hc : Consistent board.robots)
    {robotId : String} {robot : RobotRecord} (hget : board.robots.get? robotId = some robot)
    (hassigned : robot.state = .assigned) {Q : RobotRecord → RobotRegistry → Prop}
    {E : RobotRegistry → Prop}
    (hq : ∀ moved registry robots, Busies board.robots robots robotId →
      At env ⟨{ controller.dispatcher with registry := registry }, controller.haul⟩ snapshot
        ⟨robots, board.assignments⟩ → Q moved registry) :
    Ends (RobotRegistry.markBusy env robotId) controller.dispatcher.registry Q E := by
  have hname : robot.robotId = robotId := hc.named hget
  have hreg : controller.dispatcher.registry.robots.get? robotId = some robot := by
    rw [h.robots_eq, hget]
  have htask : robot.currentTaskId ≠ none :=
    hc.active_bound hget (by simp [hassigned, activeTaskStates])
  let busy : RobotRecord := { robot with state := .busy }
  let moved := controller.dispatcher.registry.stamped env busy
  apply ends_of_ok (RobotRegistry.run_markBusy env h.backed.dependable hreg hassigned htask)
  apply hq _ _ (board.robots.set robotId moved)
  · exact ⟨robot, moved, hget, hassigned, rfl, rfl, rfl, rfl⟩
  · exact h.put busy hname

lemma ends_setCurrentStation (h : At env controller snapshot board)
    (hc : Consistent board.robots) {robotId station : String}
    (hknown : (board.robots.get? robotId).isSome) {Q : RobotRecord → HaulTaskController → Prop}
    (hq : ∀ moved after robots, Touches board.robots robots robotId →
      At env after snapshot ⟨robots, board.assignments⟩ → Q moved after) :
    Ends (onRegistry (RobotRegistry.setCurrentStation env robotId station)) controller Q E := by
  obtain ⟨robot, hget⟩ := Option.isSome_iff_exists.mp hknown
  have hname : robot.robotId = robotId := hc.named hget
  have hreg : controller.dispatcher.registry.robots.get? robotId = some robot := by
    rw [h.robots_eq, hget]
  let there : RobotRecord := { robot with currentStation := some station }
  let moved := controller.dispatcher.registry.stamped env there
  rw [ends_onRegistry]
  apply ends_of_ok (RobotRegistry.run_setCurrentStation env h.backed.dependable hreg station)
  apply hq _ _ (board.robots.set robotId moved)
  · exact .inr ⟨robot, moved, hget, rfl, rfl, .inl rfl, rfl⟩
  · exact h.put there hname

lemma run_checkReadyGate {registry : RobotRegistry} {robotId : String} {robot : RobotRecord}
    (hget : registry.robots.get? robotId = some robot) :
    ∃ ready, (SimulatedRobotContext.checkReadyGate robotId).run registry = .ok ready registry := by
  simp only [SimulatedRobotContext.checkReadyGate, EStateM.run_bind,
    RobotRegistry.run_getRobot hget]
  split_ifs <;> exact ⟨_, rfl⟩

lemma ends_navigate (h : At env controller snapshot board) (hc : Consistent board.robots)
    {robotId : String} (hrobot : snapshot.robotId = some robotId)
    (hknown : (board.robots.get? robotId).isSome) {simulateFailure : Bool}
    {Q : NavigationResult → HaulTaskController → Prop}
    (hq : ∀ result after robots, robots = board.robots ∨ Busies board.robots robots robotId →
      At env after snapshot ⟨robots, board.assignments⟩ → Q result after) :
    Ends (navigate env simulateFailure) controller Q E := by
  obtain ⟨robot, hget⟩ := Option.isSome_iff_exists.mp hknown
  have hreg : controller.dispatcher.registry.robots.get? robotId = some robot := by
    rw [h.robots_eq, hget]
  obtain ⟨ready, hready⟩ := run_checkReadyGate hreg
  simp only [navigate, ends_bind, ends_currentSnapshot, h.snapshot_eq, hrobot, ends_onRegistry,
    SimulatedRobotContext.navigateToPose]
  apply ends_of_ok hready
  have hgo : ∀ result : NavigationResult,
      Ends (do
          let robot ← RobotRegistry.getRobot robotId
          if robot.state = .assigned then do
            let _ ← RobotRegistry.markBusy env robotId
            pure result
          else pure result)
        controller.dispatcher.registry
        (fun result registry => Q result
          ⟨{ controller.dispatcher with registry := registry }, controller.haul⟩)
        (fun registry => E
          ⟨{ controller.dispatcher with registry := registry }, controller.haul⟩) := by
    intro result
    rw [ends_bind]
    apply ends_of_ok (RobotRegistry.run_getRobot hreg)
    split_ifs with hassigned
    · rw [ends_bind]
      apply ends_markBusy h hc hget hassigned
      intro moved registry robots hbusy hafter
      exact hq result _ robots (.inr hbusy) hafter
    · exact hq result controller board.robots (.inl rfl) h
  split_ifs
  · exact hgo _
  · exact hgo _
  · exact hq _ controller board.robots (.inl rfl) h

end Helpers

section Operations

variable {env : Environment} {controller : HaulTaskController} {snapshot : HaulTaskSnapshot}
  {board : Board}

def Moved (env : Environment) (snapshot : HaulTaskSnapshot) (board : Board) (op : HaulOp)
    (raised : Bool) (after : HaulTaskController) : Prop :=
  ∃ snapshot' board', At env after snapshot' board' ∧
    HaulMove env snapshot board op raised snapshot' board'

lemma At.refused (h : At env controller snapshot board) {op : HaulOp}
    (htears : ¬ op.Tears env snapshot board) (haccepts : ¬ op.Accepts env snapshot board) :
    Moved env snapshot board op true controller :=
  ⟨snapshot, board, h, .refused htears haccepts⟩

lemma ends_letGo {Q : Unit → HaulTaskController → Prop} {E : HaulTaskController → Prop}
    (h : At env controller snapshot board) (hc : Consistent board.robots)
    (hactive : snapshot.assignmentStatus ∈ activeAssignmentStatuses.map some)
    {assignment : AssignmentRecord}
    (hget : board.assignments.get? snapshot.taskId = some assignment)
    (hrobot : snapshot.robotId = some assignment.robotId)
    (hknown : (board.robots.get? assignment.robotId).isSome) {status : AssignmentStatus}
    (hq : ∀ after assignments robots, Syncs board.assignments assignments snapshot.taskId status →
      Frees board.robots robots assignment.robotId →
      At env after { snapshot with assignmentStatus := some status } ⟨robots, assignments⟩ →
      Q () after) :
    Ends (whenever
        (controller.haul.snapshot.assignmentStatus ∈ activeAssignmentStatuses.map some)
        (syncAssignmentStatus env status)) controller
      (fun _ synced => Ends (releaseRobot env) synced Q E) E := by
  apply ends_whenever
  · intro _
    apply ends_syncAssignmentStatus h hget
    intro synced assignments hsync hsynced
    apply ends_releaseRobot hsynced hc hrobot hknown
    intro after robots hfree hafter
    exact hq after assignments robots hsync hfree hafter
  · intro hidle
    rw [h.snapshot_eq] at hidle
    exact absurd hactive hidle

lemma ends_failStatus {Q : Unit → HaulTaskController → Prop} {E : HaulTaskController → Prop}
    (h : At env controller snapshot board)
    (hworking : snapshot.wmsStatus ∈ [.assigned, .inProgress]) {reason : Option String}
    (hq : ∀ after, At env after { snapshot with wmsStatus := .failed, reason := reason } board →
      Q () after) :
    Ends (whenever (controller.haul.snapshot.wmsStatus ∉ terminalWmsStatuses) do
        if (← currentSnapshot).wmsStatus = .pending then
          throw ⟨.invalidLifecycleTransition,
            "A PENDING haul task cannot fail before assignment."⟩
        else
          setWmsStatus .failed reason) controller Q E := by
  have hpending : snapshot.wmsStatus ≠ .pending := by
    rintro hpending
    simp [hpending] at hworking
  apply ends_whenever
  · intro _
    simp only [ends_bind, ends_currentSnapshot, h.snapshot_eq, hpending, if_false]
    exact ends_setWmsStatus h (failed_mem_allowed.mpr hworking) hq
  · intro hterminal
    rw [h.snapshot_eq] at hterminal
    exact absurd (not_terminal_of_working hworking) hterminal

lemma ends_fail_working {Q : HaulTaskSnapshot → HaulTaskController → Prop}
    {E : HaulTaskController → Prop} (h : At env controller snapshot board)
    (hc : Consistent board.robots) (ht : Tied snapshot board)
    (hworking : snapshot.wmsStatus ∈ [.assigned, .inProgress]) {robotId reason : String}
    (hrobot : snapshot.robotId = some robotId)
    (hq : ∀ returned after assignments robots,
      Syncs board.assignments assignments snapshot.taskId .failed →
      Frees board.robots robots robotId →
      At env after
        { snapshot with
          wmsStatus := .failed
          assignmentStatus := some .failed
          executionPhase := if snapshot.executionPhase ∈ terminalExecutionPhases
            then snapshot.executionPhase else .failed
          reason := some reason }
        ⟨robots, assignments⟩ → Q returned after) :
    Ends (fail env reason) controller Q E := by
  obtain ⟨hactive, assignment, hget, _, hown, hknown⟩ := ht.working hworking
  obtain rfl := Option.some.inj (hown.symm.trans hrobot)
  let phase := if snapshot.executionPhase ∈ terminalExecutionPhases
    then snapshot.executionPhase else HaulExecutionPhase.failed
  have hlast : ∀ (middle : HaulTaskController) (text : Option String),
      At env middle { snapshot with executionPhase := phase, reason := text } board →
      Ends (whenever (middle.haul.snapshot.wmsStatus ∉ terminalWmsStatuses) do
          if (← currentSnapshot).wmsStatus = .pending then
            throw ⟨.invalidLifecycleTransition,
              "A PENDING haul task cannot fail before assignment."⟩
          else
            setWmsStatus .failed (some reason)) middle
        (fun _ failed => Ends (whenever
            (failed.haul.snapshot.assignmentStatus ∈ activeAssignmentStatuses.map some)
            (syncAssignmentStatus env .failed)) failed
          (fun _ synced => Ends (releaseRobot env) synced
            (fun _ after => Q after.haul.snapshot after) E) E) E := by
    intro middle text hmiddle
    apply ends_failStatus hmiddle hworking
    intro failed hfailed
    apply ends_letGo hfailed hc hactive hget hown hknown
    intro after assignments robots hsync hfree hafter
    exact hq _ after assignments robots hsync hfree hafter
  simp only [fail, ends_bind, ends_currentSnapshot]
  apply ends_whenever
  · intro hphase
    rw [h.snapshot_eq] at hphase
    apply ends_setExecutionPhase h (failed_mem_allowed_phases.mpr hphase)
    intro middle hmiddle
    apply hlast middle (some reason)
    simpa only [phase, hphase, if_false, Option.getD_none] using hmiddle
  · intro hphase
    rw [h.snapshot_eq, not_not] at hphase
    apply hlast controller snapshot.reason
    simpa only [phase, hphase, if_true] using h

lemma ends_assignTask (h : At env controller snapshot board) (hc : Consistent board.robots)
    {task : DispatchTask} {now : Datetime} {heartbeatTimeoutSec : Floating}
    {Q : AssignmentRecord → HaulTaskController → Prop} {E : HaulTaskController → Prop}
    (hq : board.CanAssign env task now heartbeatTimeoutSec Dict.empty → env.Converts now →
      ∀ assignment dispatcher, Binds board dispatcher.board task.taskId assignment →
      dispatcher.Backed env → Q assignment ⟨dispatcher, controller.haul⟩)
    (hs : board.CanAssign env task now heartbeatTimeoutSec Dict.empty → ¬ env.Converts now →
      ∀ dispatcher, Orphans board dispatcher.board task.taskId → dispatcher.Backed env →
      E ⟨dispatcher, controller.haul⟩)
    (he : ¬ board.CanAssign env task now heartbeatTimeoutSec Dict.empty → E controller) :
    Ends (onDispatcher (FleetDispatcher.assignTask env task now heartbeatTimeoutSec Dict.empty))
      controller Q E := by
  rw [ends_onDispatcher]
  rw [← h.board_eq] at hq hs he
  have hregistry : Consistent controller.dispatcher.registry.robots := by
    rw [h.robots_eq]
    exact hc
  by_cases hcan : controller.dispatcher.board.CanAssign env task now heartbeatTimeoutSec Dict.empty
  · by_cases hconverts : env.Converts now
    · apply (FleetDispatcher.ends_assignTask h.backed hregistry hcan hconverts).mono
      · rintro assignment dispatcher ⟨hbinds, hbacked⟩
        exact hq hcan hconverts assignment dispatcher hbinds hbacked
      · exact fun _ hfalse => hfalse.elim
    · obtain ⟨e, dispatcher, hrun, -, horphans, hbacked⟩ :=
        FleetDispatcher.run_assignTask_orphans h.backed hregistry hcan hconverts
      exact ends_of_error hrun (hs hcan hconverts dispatcher horphans hbacked)
  · obtain ⟨e, hrun⟩ := FleetDispatcher.run_assignTask_refused hcan
    exact ends_of_error hrun (he hcan)

lemma ends_assignRobot {Q : HaulTaskSnapshot → HaulTaskController → Prop}
    {E : HaulTaskController → Prop} (h : At env controller snapshot board)
    (hc : Consistent board.robots) {previousWms : WmsTaskStatus} {now : Datetime}
    {heartbeatTimeoutSec : Floating}
    (hall : WmsTaskStatus.assigned ∈ allowedWmsTransitions snapshot.wmsStatus)
    (hq : snapshot.CanAssign env board now heartbeatTimeoutSec → env.Converts now →
      ∀ returned after assignment board' reason, Binds board board' snapshot.taskId assignment →
        At env after
          { snapshot with
            wmsStatus := .assigned
            assignmentStatus := some .assigned
            robotId := some assignment.robotId
            reason := reason }
          board' → Q returned after)
    (hs : snapshot.CanAssign env board now heartbeatTimeoutSec → ¬ env.Converts now →
      ∀ after board', Orphans board board' snapshot.taskId → At env after snapshot board' →
        E after)
    (he : ¬ snapshot.CanAssign env board now heartbeatTimeoutSec → E controller) :
    Ends (assignRobot env previousWms now heartbeatTimeoutSec) controller Q E := by
  simp only [assignRobot, ends_bind, ends_currentSnapshot, h.snapshot_eq]
  cases htask : DispatchTask.create snapshot.taskId snapshot.pickupStation
      (some snapshot.dropoffStation) snapshot.priority with
  | error e =>
    rw [ends_orRaise_error]
    apply he
    rintro ⟨task, htask', _⟩
    rw [htask] at htask'
    simp at htask'
  | ok task =>
    rw [ends_orRaise_ok]
    have hid : task.taskId = snapshot.taskId := by
      rw [DispatchTask.create] at htask
      split_ifs at htask
      rw [← Except.ok.inj htask]
    apply ends_assignTask h hc
    · intro hcan hconverts assignment dispatcher hbinds hbacked
      rw [hid] at hbinds
      simp only [ends_replaceSnapshot, hbinds.status_eq]
      have hbound : At env
          ⟨dispatcher, { controller.haul with
            snapshot := { controller.haul.snapshot with
              robotId := some assignment.robotId
              assignmentStatus := some .assigned } }⟩
          { snapshot with
            robotId := some assignment.robotId
            assignmentStatus := some .assigned } dispatcher.board :=
        ⟨by rw [h.snapshot_eq], rfl, hbacked⟩
      apply ends_setWmsStatus hbound hall
      intro after hafter
      apply ends_whenever
      · intro _
        apply ends_emit hafter
        intro last hlast
        exact hq ⟨task, htask, hcan⟩ hconverts _ last assignment _ _ hbinds hlast
      · intro _
        exact hq ⟨task, htask, hcan⟩ hconverts _ after assignment _ _ hbinds hafter
    · intro hcan hconverts dispatcher horphans hbacked
      rw [hid] at horphans
      exact hs ⟨task, htask, hcan⟩ hconverts _ _ horphans ⟨h.snapshot_eq, rfl, hbacked⟩
    · intro hcan
      apply he
      rintro ⟨other, hother, hcanOther⟩
      rw [htask] at hother
      rw [Except.ok.inj hother] at hcan
      exact hcan hcanOther

lemma ends_reassign (h : At env controller snapshot board) (hc : Consistent board.robots)
    (ht : Tied snapshot board) (hwms : snapshot.wmsStatus = .requeued) (now : Datetime)
    (heartbeatTimeoutSec : Floating) (text : Option String) :
    Ends (setExecutionPhase .idle text (some false)) controller
      (fun _ middle => Ends (assignRobot env snapshot.wmsStatus now heartbeatTimeoutSec) middle
        (fun _ => Moved env snapshot board (.assign now heartbeatTimeoutSec) false)
        (Moved env snapshot board (.assign now heartbeatTimeoutSec) true))
      (Moved env snapshot board (.assign now heartbeatTimeoutSec) true) := by
  have hcoherent := ht.coherent
  simp only [HaulTaskSnapshot.Coherent, hwms] at hcoherent
  have hpickup : snapshot.pickupCompleted = false := hcoherent.2.2.1
  by_cases hphase : snapshot.executionPhase = .requeued
  · apply ends_setExecutionPhase h (idle_mem_allowed.mpr hphase)
    intro middle hmiddle
    simp only [Option.getD_some, ← hpickup] at hmiddle
    apply ends_assignRobot hmiddle hc (assigned_mem_allowed.mpr (by simp [hwms]))
    · intro hcan hconverts returned after assignment board' reason hbinds hafter
      refine ⟨_, _, hafter, ?_⟩
      have hmove := HaulMove.assigned reason ⟨.inr ⟨hwms, hphase⟩, hcan⟩ hconverts hbinds
      simpa only [hwms, if_true] using hmove
    · intro hcan hconverts after board' horphans hafter
      refine ⟨_, _, hafter, ?_⟩
      have hmove := HaulMove.orphaned text ⟨.inr ⟨hwms, hphase⟩, hcan⟩ hconverts horphans
      simpa only [hwms, if_true] using hmove
    · intro hcan
      have hnot : ¬ (HaulOp.assign now heartbeatTimeoutSec).Orphans env snapshot board :=
        fun horphans => hcan horphans.1.2
      refine ⟨_, _, hmiddle, .rephased _ (.inl ⟨hwms, hphase, hcan⟩) hnot ?_ ?_ ?_⟩
      · simp [hwms]
      · simp
      · simp [hphase]
  · have hgives : ¬ snapshot.Gives env board now heartbeatTimeoutSec := by
      rintro ⟨hs | ⟨_, hp⟩, _⟩
      · simp [hwms] at hs
      · exact hphase hp
    apply ends_setExecutionPhase_refused h (mt idle_mem_allowed.mp hphase)
    apply h.refused
    · rintro (⟨_, hp, _⟩ | horphans)
      · exact hphase hp
      · exact hgives horphans.1
    · exact fun haccepts => hgives haccepts.1

lemma ends_assign (h : At env controller snapshot board) (hc : Consistent board.robots)
    (ht : Tied snapshot board) (now : Datetime) (heartbeatTimeoutSec : Floating) :
    Ends (assign env now heartbeatTimeoutSec) controller
      (fun _ => Moved env snapshot board (.assign now heartbeatTimeoutSec) false)
      (Moved env snapshot board (.assign now heartbeatTimeoutSec) true) := by
  simp only [assign, ends_bind, ends_currentSnapshot, h.snapshot_eq]
  split_ifs with hopen
  · rw [ends_bind]
    apply ends_whenever
    · intro hwms
      rw [h.snapshot_eq] at hwms
      exact ends_reassign h hc ht hwms now heartbeatTimeoutSec _
    · intro hwms
      rw [h.snapshot_eq] at hwms
      have hpending : snapshot.wmsStatus = .pending := by
        simp only [List.mem_cons, List.not_mem_nil, or_false] at hopen
        exact hopen.resolve_right hwms
      apply ends_assignRobot h hc (assigned_mem_allowed.mpr hopen)
      · intro hcan hconverts returned after assignment board' reason hbinds hafter
        refine ⟨_, _, hafter, ?_⟩
        have hmove := HaulMove.assigned reason ⟨.inl hpending, hcan⟩ hconverts hbinds
        simpa only [hwms, if_false] using hmove
      · intro hcan hconverts after board' horphans hafter
        refine ⟨_, _, hafter, ?_⟩
        have hmove :=
          HaulMove.orphaned snapshot.reason ⟨.inl hpending, hcan⟩ hconverts horphans
        simpa only [hwms, if_false] using hmove
      · intro hcan
        apply h.refused
        · rintro (⟨hrequeued, _⟩ | horphans)
          · exact hwms hrequeued
          · exact hcan horphans.1.2
        · rintro ⟨hgives, _⟩
          exact hcan hgives.2
  · have hgives : ¬ snapshot.Gives env board now heartbeatTimeoutSec := by
      rintro ⟨hwms | ⟨hwms, _⟩, _⟩
      · simp [hwms] at hopen
      · simp [hwms] at hopen
    apply h.refused
    · rintro (⟨hwms, _⟩ | horphans)
      · simp [hwms] at hopen
      · exact hgives horphans.1
    · exact fun haccepts => hgives haccepts.1

lemma ends_depart (h : At env controller snapshot board) (hc : Consistent board.robots)
    {robotId : String} (hknown : (board.robots.get? robotId).isSome) {event : String}
    {reason : Option String} {Q E : HaulTaskController → Prop}
    (hq : ∀ after robots, Touches board.robots robots robotId →
      At env after snapshot ⟨robots, board.assignments⟩ → Q after) :
    Ends (onRegistry (RobotRegistry.getRobot robotId)) controller
      (fun robot found => Ends (whenever (robot.state = .assigned) do
          let _ ← onRegistry (RobotRegistry.markBusy env robotId)
          emit env event reason) found
        (fun _ after => Q after) E) E := by
  obtain ⟨robot, hrec⟩ := Option.isSome_iff_exists.mp hknown
  have hreg : controller.dispatcher.registry.robots.get? robotId = some robot := by
    rw [h.robots_eq, hrec]
  rw [ends_onRegistry]
  apply ends_of_ok (RobotRegistry.run_getRobot hreg)
  apply ends_whenever
  · intro hassigned
    simp only [ends_bind, ends_onRegistry]
    apply ends_markBusy h hc hrec hassigned
    intro moved registry robots hbusy hafter
    apply ends_emit hafter
    intro last hlast
    exact hq last robots hbusy.touches hlast
  · intro _
    exact hq controller board.robots (.inl rfl) h

lemma ends_start (h : At env controller snapshot board) (hc : Consistent board.robots)
    (ht : Tied snapshot board) :
    Ends (start env) controller (fun _ => Moved env snapshot board .start false)
      (Moved env snapshot board .start true) := by
  simp only [start, ends_bind, ends_currentSnapshot, h.snapshot_eq]
  by_cases hwms : snapshot.wmsStatus = .assigned
  · have hworking : snapshot.wmsStatus ∈ [.assigned, .inProgress] := by simp [hwms]
    obtain ⟨_, assignment, hget, _, hrobot, hknown⟩ := ht.working hworking
    simp only [hrobot, ends_bind]
    apply ends_setWmsStatus h (inProgress_mem_allowed.mpr hwms)
    intro first hfirst
    apply ends_syncAssignmentStatus hfirst hget
    intro synced assignments hsync hsynced
    simp only [ends_currentSnapshot, hsynced.snapshot_eq]
    by_cases hphase : snapshot.executionPhase = .idle
    · apply ends_setExecutionPhase hsynced (navigatingToPickup_mem_allowed.mpr hphase)
      intro second hsecond
      simp only [Option.getD_none] at hsecond
      apply ends_emit hsecond
      intro third hthird
      apply ends_depart hthird hc hknown
      intro after robots htouch hafter
      exact ⟨_, _, hafter, .started _ hwms hphase hrobot hsync htouch⟩
    · apply ends_setExecutionPhase_refused hsynced (mt navigatingToPickup_mem_allowed.mp hphase)
      exact ⟨_, _, hsynced, .halfStarted _ hwms hphase hsync⟩
  · have htears : ¬ HaulOp.start.Tears env snapshot board := fun h => hwms h.1
    have haccepts : ¬ HaulOp.start.Accepts env snapshot board := fun h => hwms h.1
    cases snapshot.robotId with
    | none => exact h.refused htears haccepts
    | some robotId =>
      rw [ends_bind]
      apply ends_setWmsStatus_refused h (mt inProgress_mem_allowed.mp hwms)
      exact h.refused htears haccepts

lemma ends_arrive (h : At env controller snapshot board) (hc : Consistent board.robots)
    (ht : Tied snapshot board) {op : HaulOp} {origin target : HaulExecutionPhase}
    (hphase : snapshot.executionPhase = origin) (hleg : Leg op origin target)
    (hclosing : Closing snapshot op .failed .failed .failed) {simulateFailure : Bool}
    {station : HaulTaskSnapshot → String} {reason : String} :
    Ends (arrive env simulateFailure station target reason) controller
      (fun _ => Moved env snapshot board op false) (Moved env snapshot board op true) := by
  have hwms : snapshot.wmsStatus = .inProgress := by
    apply ht.coherent.inProgress
    rw [hphase]
    cases hleg <;> decide
  have hworking : snapshot.wmsStatus ∈ [.assigned, .inProgress] := by simp [hwms]
  obtain ⟨_, assignment, _, _, hrobot, hknown⟩ := ht.working hworking
  simp only [arrive, ends_bind]
  apply ends_navigate h hc hrobot hknown
  intro result there robots hbusy hthere
  have htouch : Touches board.robots robots assignment.robotId :=
    hbusy.elim .inl Busies.touches
  have hc' : Consistent robots := htouch.consistent hc
  have ht' : Tied snapshot ⟨robots, board.assignments⟩ :=
    ⟨ht.coherent, ht.record, fun hr => htouch.calm.known (ht.known hr)⟩
  split_ifs
  · simp only [ends_bind, ends_currentSnapshot, hthere.snapshot_eq, hrobot, Option.getD_some]
    apply ends_setCurrentStation hthere hc' (htouch.calm.known hknown)
    intro moved placed robots' htouch' hplaced
    have hall : target ∈ allowedExecutionTransitions snapshot.executionPhase := by
      rw [hphase]
      cases hleg <;> decide
    apply ends_setExecutionPhase hplaced hall
    intro middle hmiddle
    simp only [Option.getD_none] at hmiddle
    apply ends_emit hmiddle
    intro after hafter
    exact ⟨_, _, hafter, .arrived _ hwms hphase hleg hrobot (htouch.trans htouch')⟩
  · apply ends_fail_working hthere hc' ht' hworking hrobot
    intro returned after assignments robots' hsync hfree hafter
    have hfrees : Frees board.robots robots' assignment.robotId := by
      rcases hbusy with rfl | hbusy
      · exact hfree
      · exact hfree.of_busies hbusy
    have hnot : snapshot.executionPhase ∉ terminalExecutionPhases := by
      rw [hphase]
      cases hleg <;> decide
    simp only [hnot, if_false] at hafter
    exact ⟨_, _, hafter, .ended _ (by simp) hworking hclosing hrobot hsync hfrees⟩

lemma ends_completeNavigationToPickup (h : At env controller snapshot board)
    (hc : Consistent board.robots) (ht : Tied snapshot board) (simulateFailure : Bool) :
    Ends (completeNavigationToPickup env simulateFailure) controller
      (fun _ => Moved env snapshot board (.completeNavigationToPickup simulateFailure) false)
      (Moved env snapshot board (.completeNavigationToPickup simulateFailure) true) := by
  simp only [completeNavigationToPickup, ends_bind, ends_currentSnapshot, h.snapshot_eq]
  split_ifs with hphase
  · exact h.refused (fun htears => htears) hphase
  · replace hphase := not_not.mp hphase
    exact ends_arrive h hc ht hphase (.pickup simulateFailure)
      (.failToPickup simulateFailure hphase)

lemma ends_completeNavigationToDropoff (h : At env controller snapshot board)
    (hc : Consistent board.robots) (ht : Tied snapshot board) (simulateFailure : Bool) :
    Ends (completeNavigationToDropoff env simulateFailure) controller
      (fun _ => Moved env snapshot board (.completeNavigationToDropoff simulateFailure) false)
      (Moved env snapshot board (.completeNavigationToDropoff simulateFailure) true) := by
  simp only [completeNavigationToDropoff, ends_bind, ends_currentSnapshot, h.snapshot_eq]
  split_ifs with hphase
  · exact h.refused (fun htears => htears) hphase
  · replace hphase := not_not.mp hphase
    exact ends_arrive h hc ht hphase (.dropoff simulateFailure)
      (.failToDropoff simulateFailure hphase)

lemma ends_completePickup (h : At env controller snapshot board) (ht : Tied snapshot board) :
    Ends (completePickup env) controller (fun _ => Moved env snapshot board .completePickup false)
      (Moved env snapshot board .completePickup true) := by
  simp only [completePickup, ends_bind, ends_currentSnapshot, h.snapshot_eq]
  split_ifs with hphase
  · exact h.refused (fun htears => htears) hphase
  · replace hphase := not_not.mp hphase
    have hwms : snapshot.wmsStatus = .inProgress := ht.coherent.inProgress (by simp [hphase])
    have hall : HaulExecutionPhase.navigatingToDropoff ∈
        allowedExecutionTransitions snapshot.executionPhase := by
      rw [hphase]
      decide
    simp only [ends_bind]
    apply ends_setExecutionPhase h hall
    intro middle hmiddle
    simp only [Option.getD_some] at hmiddle
    rw [ends_currentSnapshot]
    apply ends_emit hmiddle
    intro after hafter
    exact ⟨_, _, hafter, .loaded _ hwms hphase⟩

lemma ends_completeDropoff (h : At env controller snapshot board) (hc : Consistent board.robots)
    (ht : Tied snapshot board) :
    Ends (completeDropoff env) controller
      (fun _ => Moved env snapshot board .completeDropoff false)
      (Moved env snapshot board .completeDropoff true) := by
  simp only [completeDropoff, ends_bind, ends_currentSnapshot, h.snapshot_eq]
  split_ifs with hphase
  · exact h.refused (fun htears => htears) hphase
  · replace hphase := not_not.mp hphase
    have hwms : snapshot.wmsStatus = .inProgress := ht.coherent.inProgress (by simp [hphase])
    have hworking : snapshot.wmsStatus ∈ [.assigned, .inProgress] := by simp [hwms]
    obtain ⟨_, assignment, hget, _, hrobot, hknown⟩ := ht.working hworking
    have hdone : HaulExecutionPhase.succeeded ∈
        allowedExecutionTransitions snapshot.executionPhase := by
      rw [hphase]
      decide
    have hall : WmsTaskStatus.succeeded ∈ allowedWmsTransitions snapshot.wmsStatus := by
      rw [hwms]
      decide
    simp only [ends_bind]
    apply ends_setExecutionPhase h hdone
    intro first hfirst
    simp only [Option.getD_none] at hfirst
    apply ends_setWmsStatus hfirst hall
    intro second hsecond
    apply ends_syncAssignmentStatus hsecond hget
    intro synced assignments hsync hsynced
    apply ends_releaseRobot hsynced hc hrobot hknown
    intro freed robots hfree hfreed
    apply ends_emit hfreed
    intro after hafter
    exact ⟨_, _, hafter, .ended _ (by simp) hworking (.succeed hphase) hrobot hsync hfree⟩

lemma ends_failOpen {Q : Unit → HaulTaskController → Prop} {E : HaulTaskController → Prop}
    (h : At env controller snapshot board) (hopen : snapshot.wmsStatus ∈ [.pending, .requeued])
    {reason : Option String} (he : E controller) :
    Ends (whenever (controller.haul.snapshot.wmsStatus ∉ terminalWmsStatuses) do
        if (← currentSnapshot).wmsStatus = .pending then
          throw ⟨.invalidLifecycleTransition,
            "A PENDING haul task cannot fail before assignment."⟩
        else
          setWmsStatus .failed reason) controller Q E := by
  apply ends_whenever
  · intro _
    simp only [ends_bind, ends_currentSnapshot, h.snapshot_eq]
    split_ifs with hpending
    · exact he
    · exact ends_setWmsStatus_refused h (mt failed_mem_allowed.mp (not_working_of_open hopen)) he
  · intro hterminal
    rw [h.snapshot_eq] at hterminal
    exact absurd (not_terminal_of_open hopen) hterminal

lemma ends_fail (h : At env controller snapshot board) (hc : Consistent board.robots)
    (ht : Tied snapshot board) (reason : String) :
    Ends (fail env reason) controller (fun _ => Moved env snapshot board (.fail reason) false)
      (Moved env snapshot board (.fail reason) true) := by
  by_cases hworking : snapshot.wmsStatus ∈ [.assigned, .inProgress]
  · obtain ⟨_, assignment, _, _, hrobot, _⟩ := ht.working hworking
    apply ends_fail_working h hc ht hworking hrobot
    intro returned after assignments robots hsync hfree hafter
    exact ⟨_, _, hafter, .ended _ (by simp) hworking (.fail reason) hrobot hsync hfree⟩
  · have hidle : snapshot.assignmentStatus ∉ activeAssignmentStatuses.map some :=
      fun hactive => hworking (ht.coherent.active_iff.mp hactive)
    by_cases hterminal : snapshot.wmsStatus ∈ terminalWmsStatuses
    · have hphase := ht.coherent.terminal hterminal
      simp only [fail, ends_bind, ends_currentSnapshot, whenever, h.snapshot_eq, hphase,
        hterminal, hidle, not_true_eq_false, if_false, ends_pure]
      cases hrobot : snapshot.robotId with
      | none =>
        apply ends_releaseRobot_none h hrobot
        exact ⟨_, _, h, .refailed hterminal (by simp [hrobot]) (fun _ => rfl)⟩
      | some robotId =>
        apply ends_releaseRobot h hc hrobot (ht.known hrobot)
        intro after robots hfree hafter
        refine ⟨_, _, hafter, .refailed hterminal ?_ (by simp [hrobot])⟩
        intro id hid
        obtain rfl := Option.some.inj (hrobot.symm.trans hid)
        exact hfree
    · have hopen := mem_open_of_not_mem hworking hterminal
      simp only [fail, ends_bind, ends_currentSnapshot]
      apply ends_whenever
      · intro hphase
        rw [h.snapshot_eq] at hphase
        have hfresh : snapshot.executionPhase = .idle := by
          have hp := (ht.coherent.unassigned hopen).2.2
          cases hs : snapshot.executionPhase <;> simp_all [terminalExecutionPhases]
        apply ends_setExecutionPhase h (failed_mem_allowed_phases.mpr hphase)
        intro middle hmiddle
        simp only [Option.getD_none] at hmiddle
        apply ends_failOpen hmiddle hopen
        refine ⟨_, _, hmiddle, .rephased _ ⟨hopen, hfresh⟩ id hopen (by simp) ?_⟩
        simp [hfresh]
      · intro hphase
        rw [h.snapshot_eq, not_not] at hphase
        apply ends_failOpen h hopen
        apply h.refused
        · rintro ⟨_, hfresh⟩
          rw [hfresh] at hphase
          exact absurd hphase (by decide)
        · exact fun haccepts => haccepts hopen

lemma ends_withdraw_refused {Q : Unit → HaulTaskController → Prop} {E : HaulTaskController → Prop}
    (h : At env controller snapshot board) {refusal reason : String} {phase : HaulExecutionPhase}
    {wmsStatus : WmsTaskStatus} {status : AssignmentStatus}
    (hrefused : snapshot.pickupCompleted = true ∨
      phase ∉ allowedExecutionTransitions snapshot.executionPhase) (he : E controller) :
    Ends (withdraw env refusal phase wmsStatus status reason) controller Q E := by
  simp only [withdraw, ends_bind, ends_currentSnapshot, h.snapshot_eq]
  split_ifs with hpickup
  · exact he
  · rw [ends_bind]
    exact ends_setExecutionPhase_refused h (hrefused.resolve_left hpickup) he

lemma ends_withdraw_working (h : At env controller snapshot board) (hc : Consistent board.robots)
    (ht : Tied snapshot board) (hworking : snapshot.wmsStatus ∈ [.assigned, .inProgress])
    (hpickup : snapshot.pickupCompleted = false) {refusal reason : String}
    {phase : HaulExecutionPhase} {wmsStatus : WmsTaskStatus} {status : AssignmentStatus}
    (hphase : phase ∈ allowedExecutionTransitions snapshot.executionPhase)
    (hwms : wmsStatus ∈ allowedWmsTransitions snapshot.wmsStatus) {robotId : String}
    (hrobot : snapshot.robotId = some robotId) {Q : Unit → HaulTaskController → Prop}
    {E : HaulTaskController → Prop}
    (hq : ∀ after assignments robots,
      Syncs board.assignments assignments snapshot.taskId status →
      Frees board.robots robots robotId →
      At env after
        { snapshot with
          wmsStatus := wmsStatus
          assignmentStatus := some status
          executionPhase := phase
          reason := some reason }
        ⟨robots, assignments⟩ → Q () after) :
    Ends (withdraw env refusal phase wmsStatus status reason) controller Q E := by
  obtain ⟨hactive, assignment, hget, _, hown, hknown⟩ := ht.working hworking
  obtain rfl := Option.some.inj (hown.symm.trans hrobot)
  simp only [withdraw, ends_bind, ends_currentSnapshot, h.snapshot_eq, hpickup, Bool.false_eq_true,
    if_false]
  apply ends_setExecutionPhase h hphase
  intro first hfirst
  apply ends_setWmsStatus hfirst hwms
  intro second hsecond
  apply ends_letGo hsecond hc hactive hget hown hknown
  intro after assignments robots hsync hfree hafter
  exact hq after assignments robots hsync hfree hafter

lemma ends_cancel (h : At env controller snapshot board) (hc : Consistent board.robots)
    (ht : Tied snapshot board) (reason : String) :
    Ends (cancel env reason) controller (fun _ => Moved env snapshot board (.cancel reason) false)
      (Moved env snapshot board (.cancel reason) true) := by
  simp only [cancel, ends_bind, ends_currentSnapshot]
  by_cases hpickup : snapshot.pickupCompleted = true
  · apply ends_withdraw_refused h (.inl hpickup)
    exact h.refused (fun htears => htears) (fun haccepts => by simp [haccepts.1] at hpickup)
  rw [Bool.not_eq_true] at hpickup
  by_cases hphase : snapshot.executionPhase ∈ terminalExecutionPhases
  · have hall := mt canceled_mem_allowed_phases.mp (not_not.mpr hphase)
    apply ends_withdraw_refused h (.inr hall)
    exact h.refused (fun htears => htears) (fun haccepts => haccepts.2 hphase)
  have hall := canceled_mem_allowed_phases.mpr hphase
  by_cases hworking : snapshot.wmsStatus ∈ [.assigned, .inProgress]
  · have hwms := canceled_mem_allowed.mpr (not_terminal_of_working hworking)
    obtain ⟨_, assignment, _, _, hrobot, _⟩ := ht.working hworking
    apply ends_withdraw_working h hc ht hworking hpickup hall hwms hrobot
    intro after assignments robots hsync hfree hafter
    exact ⟨_, _, hafter,
      .ended _ (by simp) hworking (.cancel reason hpickup hphase) hrobot hsync hfree⟩
  · have hopen : snapshot.wmsStatus ∈ [.pending, .requeued] :=
      mem_open_of_not_mem hworking (fun hterminal => hphase (ht.coherent.terminal hterminal))
    obtain ⟨hrobot, _, hp⟩ := ht.coherent.unassigned hopen
    have hfresh : snapshot.executionPhase = .idle := by
      cases hs : snapshot.executionPhase <;> simp_all [terminalExecutionPhases]
    have hwms := canceled_mem_allowed.mpr (not_terminal_of_open hopen)
    have hidle : snapshot.assignmentStatus ∉ activeAssignmentStatuses.map some :=
      fun hactive => hworking (ht.coherent.active_iff.mp hactive)
    simp only [withdraw, ends_bind, ends_currentSnapshot, h.snapshot_eq, hpickup,
      Bool.false_eq_true, if_false]
    apply ends_setExecutionPhase h hall
    intro first hfirst
    simp only [Option.getD_none] at hfirst
    apply ends_setWmsStatus hfirst hwms
    intro second hsecond
    simp only [whenever, hsecond.snapshot_eq, hidle, if_false, ends_pure]
    apply ends_releaseRobot_none hsecond hrobot
    exact ⟨_, _, hsecond, .dropped _ hopen hfresh⟩

lemma ends_requeue (h : At env controller snapshot board) (hc : Consistent board.robots)
    (ht : Tied snapshot board) (reason : String) :
    Ends (requeue env reason) controller (fun _ => Moved env snapshot board (.requeue reason) false)
      (Moved env snapshot board (.requeue reason) true) := by
  simp only [requeue, ends_bind, ends_currentSnapshot]
  by_cases hpickup : snapshot.pickupCompleted = true
  · apply ends_withdraw_refused h (.inl hpickup)
    apply h.refused
    · rintro ⟨hopen, _⟩
      rw [(ht.coherent.unassigned hopen).2.1] at hpickup
      simp at hpickup
    · rintro ⟨hempty, _⟩
      simp [hempty] at hpickup
  rw [Bool.not_eq_true] at hpickup
  by_cases hphase : snapshot.executionPhase ∈ [.idle, .navigatingToPickup]
  · have hall := requeued_mem_allowed_phases.mpr hphase
    by_cases hworking : snapshot.wmsStatus ∈ [.assigned, .inProgress]
    · have hwms := requeued_mem_allowed.mpr hworking
      obtain ⟨_, assignment, _, _, hrobot, _⟩ := ht.working hworking
      apply ends_withdraw_working h hc ht hworking hpickup hall hwms hrobot
      intro released assignments robots hsync hfree hreleased
      rw [ends_replaceSnapshot]
      have hunbound : At env
          { released with haul := { released.haul with
            snapshot := { released.haul.snapshot with robotId := none } } }
          { snapshot with
            wmsStatus := .requeued
            assignmentStatus := some .released
            executionPhase := .requeued
            robotId := none
            reason := some reason }
          ⟨robots, assignments⟩ :=
        ⟨by rw [hreleased.snapshot_eq], hreleased.board_eq, hreleased.backed⟩
      apply ends_emit hunbound
      intro after hafter
      exact ⟨_, _, hafter,
        .closed _ hworking (.requeue reason hpickup hphase) hrobot hsync hfree⟩
    · have hnotTerminal : snapshot.wmsStatus ∉ terminalWmsStatuses := by
        intro hterminal
        have hp := ht.coherent.terminal hterminal
        cases hs : snapshot.executionPhase <;> simp_all [terminalExecutionPhases]
      have hopen := mem_open_of_not_mem hworking hnotTerminal
      have hfresh : snapshot.executionPhase = .idle := by
        have hp := (ht.coherent.unassigned hopen).2.2
        cases hs : snapshot.executionPhase <;> simp_all
      have hwms := mt requeued_mem_allowed.mp hworking
      simp only [withdraw, ends_bind, ends_currentSnapshot, h.snapshot_eq, hpickup,
        Bool.false_eq_true, if_false]
      apply ends_setExecutionPhase h hall
      intro first hfirst
      simp only [Option.getD_none] at hfirst
      apply ends_setWmsStatus_refused hfirst hwms
      refine ⟨_, _, hfirst, .rephased _ ⟨hopen, hfresh⟩ id hopen (by simp) ?_⟩
      simp [hfresh]
  · have hall := mt requeued_mem_allowed_phases.mp hphase
    apply ends_withdraw_refused h (.inr hall)
    apply h.refused
    · rintro ⟨_, hfresh⟩
      simp [hfresh] at hphase
    · rintro ⟨_, hp, _⟩
      exact hphase hp

theorem ends_call (h : At env controller snapshot board) (hc : Consistent board.robots)
    (ht : Tied snapshot board) (op : HaulOp) :
    Ends (op.call env) controller (fun _ => Moved env snapshot board op false)
      (Moved env snapshot board op true) := by
  cases op with
  | assign now heartbeatTimeoutSec => exact ends_assign h hc ht now heartbeatTimeoutSec
  | start => exact ends_start h hc ht
  | completeNavigationToPickup simulateFailure =>
    exact ends_completeNavigationToPickup h hc ht simulateFailure
  | completePickup => exact ends_completePickup h ht
  | completeNavigationToDropoff simulateFailure =>
    exact ends_completeNavigationToDropoff h hc ht simulateFailure
  | completeDropoff => exact ends_completeDropoff h hc ht
  | fail reason => exact ends_fail h hc ht reason
  | cancel reason => exact ends_cancel h hc ht reason
  | requeue reason => exact ends_requeue h hc ht reason

end Operations

end HaulTaskController

end Fleet
