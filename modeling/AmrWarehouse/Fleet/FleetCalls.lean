import AmrWarehouse.Fleet.FleetMoves
import AmrWarehouse.Fleet.HaulCalls

/-! Every call on a fleet is a sequence of moves. -/

namespace Fleet

open Library

def FleetState.view (fleet : FleetState) : FleetView := ⟨fleet.dispatcher.board, fleet.snapshot?⟩

structure Good (env : Environment) (fleet : FleetState) : Prop where
  sound : Sound fleet.view
  backed : fleet.dispatcher.Backed env

def FleetOp.Neutral : FleetOp → Prop
  | registry op => op.Neutral
  | setAssignmentStatus _ _ _ => False
  | _ => True

def FleetOp.Allows (env : Environment) : FleetOp → FleetView → FleetLabel → Prop
  | registry op, _, label => label = .registry op ∧ op.Neutral
  | createHaul taskId _ _ _ _, _, label => label = .create taskId
  | haul taskId op, _, label => ∃ raised, label = .haul taskId op raised
  | assignTask task now _ _, _, label =>
      label = .bind task.taskId ∨ ¬ env.Converts now ∧ label = .orphan task.taskId
  | dispatchTasks tasks now _ _, _, label => ∃ task ∈ tasks,
      label = .bind task.taskId ∨ ¬ env.Converts now ∧ label = .orphan task.taskId
  | setAssignmentStatus _ _ _, _, _ => False
  | sweep _ _ _, _, label =>
      (∃ taskId reason raised, label = .haul taskId (.requeue reason) raised) ∨
        ∃ robotId, label = .registry (.markOffline robotId)
  | reassignRequeued haulTasks now timeoutSec, view, label => ∃ taskId ∈ haulTasks.map Prod.snd,
      (view.snapshot? taskId).map HaulTaskSnapshot.wmsStatus = some .requeued ∧
        ∃ raised, label = .haul taskId (.assign now timeoutSec) raised

lemma FleetOp.Allows.allowed {env : Environment} {op : FleetOp} {view : FleetView}
    {label : FleetLabel} (h : op.Allows env view label) : label.Allowed := by
  cases op with
  | registry op =>
    obtain ⟨rfl, hn⟩ := h
    exact hn
  | createHaul =>
    obtain rfl := h
    trivial
  | haul =>
    obtain ⟨_, rfl⟩ := h
    trivial
  | assignTask =>
    obtain rfl | ⟨_, rfl⟩ := h
    · trivial
    · trivial
  | dispatchTasks =>
    obtain ⟨_, _, rfl | ⟨_, rfl⟩⟩ := h
    · trivial
    · trivial
  | setAssignmentStatus => exact h.elim
  | sweep =>
    obtain ⟨_, _, _, rfl⟩ | ⟨_, rfl⟩ := h
    · trivial
    · trivial
  | reassignRequeued =>
    obtain ⟨_, _, _, _, rfl⟩ := h
    trivial

lemma FleetOp.Allows.ne_fail {env : Environment} {op : FleetOp} {view : FleetView}
    {label : FleetLabel} (h : op.Allows env view label)
    (hother : ∀ taskId haulOp, op ≠ .haul taskId haulOp) {taskId : ℤ}
    {reason : String} {raised : Bool} : label ≠ .haul taskId (.fail reason) raised := by
  rintro rfl
  cases op with
  | haul taskId haulOp => exact hother taskId haulOp rfl
  | sweep _ _ _ =>
    obtain ⟨_, _, _, heq⟩ | ⟨_, heq⟩ := h
    · simp at heq
    · simp at heq
  | reassignRequeued _ _ _ =>
    obtain ⟨_, _, _, _, heq⟩ := h
    simp at heq
  | dispatchTasks _ _ _ _ =>
    obtain ⟨_, _, heq | ⟨_, heq⟩⟩ := h
    · simp at heq
    · simp at heq
  | setAssignmentStatus _ _ _ => exact h
  | registry _ => simp [FleetOp.Allows] at h
  | createHaul _ _ _ _ _ => simp [FleetOp.Allows] at h
  | assignTask _ _ _ _ => simp [FleetOp.Allows] at h

structure Goes (env : Environment) (allowed : FleetView → FleetLabel → Prop)
    (before after : FleetState) : Prop where
  good : Good env after
  moves : Moves (FleetMove env) allowed before.view after.view

section Steps

variable {env : Environment} {fleet after : FleetState}
  {allowed : FleetView → FleetLabel → Prop}

lemma Goes.refl (h : Good env fleet) : Goes env allowed fleet fleet := ⟨h, .refl _⟩

lemma Goes.trans {last : FleetState} (h : Goes env allowed fleet after)
    (h' : Goes env allowed after last) : Goes env allowed fleet last :=
  ⟨h'.good, h.moves.trans h'.moves⟩

lemma Goes.of_view (h : Good env fleet) (hview : after.view = fleet.view)
    (hbacked : after.dispatcher.Backed env) : Goes env allowed fleet after := by
  refine ⟨⟨?_, hbacked⟩, ?_⟩
  · rw [hview]
    exact h.sound
  · rw [hview]
    exact .refl _

lemma Goes.of_move (h : Good env fleet) {label : FleetLabel}
    (hmove : FleetMove env fleet.view label after.view) (hl : label.Allowed)
    (ha : allowed fleet.view label) (hbacked : after.dispatcher.Backed env) :
    Goes env allowed fleet after :=
  ⟨⟨h.sound.move hmove hl, hbacked⟩, .single ha hmove⟩

lemma ends_emit (h : Good env fleet) {event : String} {taskId : Option ℤ}
    {robotId reason timestamp : Option String} {Q : FleetEvent → FleetState → Prop}
    {E : FleetState → Prop}
    (hq : ∀ fleetEvent after, after.view = fleet.view → Good env after →
      after.hauls = fleet.hauls → Q fleetEvent after) :
    Ends (onDispatcher (FleetDispatcher.emitEvent env event taskId robotId reason timestamp)) fleet
      Q E := by
  rw [onDispatcher, ends_focus]
  apply FleetDispatcher.ends_emitEvent
  intro fleetEvent dispatcher hsame
  have hview : FleetState.view ⟨dispatcher, fleet.hauls⟩ = fleet.view := by
    simp only [FleetState.view, hsame.board_eq]
    rfl
  apply hq _ _ hview _ rfl
  refine ⟨?_, hsame.backed h.backed⟩
  rw [hview]
  exact h.sound

lemma view_set (controller : HaulTaskController) (taskId : ℤ) :
    FleetState.view ⟨controller.dispatcher, fleet.hauls.set taskId controller.haul⟩ =
      ⟨controller.dispatcher.board,
        Function.update fleet.snapshot? taskId (some controller.haul.snapshot)⟩ := by
  simp only [FleetState.view, FleetView.mk.injEq, true_and]
  funext other
  simp only [FleetState.snapshot?, Dict.get?_set, Function.update_apply]
  split_ifs <;> rfl

lemma ends_onController (h : Good env fleet) {taskId : ℤ} {haul : Haul}
    (hget : fleet.hauls.get? taskId = some haul) (op : HaulOp)
    {Q : HaulTaskSnapshot → FleetState → Prop} {E : FleetState → Prop}
    (hq : ∀ returned after, Good env after →
      FleetMove env fleet.view (.haul taskId op false) after.view → Q returned after)
    (he : ∀ after, Good env after →
      FleetMove env fleet.view (.haul taskId op true) after.view → E after) :
    Ends (onController taskId haul (op.call env)) fleet Q E := by
  have hsnapshot : fleet.view.snapshot? taskId = some haul.snapshot := by
    simp [FleetState.view, FleetState.snapshot?, hget]
  have hat : HaulTaskController.At env ⟨fleet.dispatcher, haul⟩ haul.snapshot fleet.view.board :=
    ⟨rfl, rfl, h.backed⟩
  have hmoved : ∀ {raised : Bool} {controller : HaulTaskController},
      HaulTaskController.Moved env haul.snapshot fleet.view.board op raised controller →
      Good env ⟨controller.dispatcher, fleet.hauls.set taskId controller.haul⟩ ∧
        FleetMove env fleet.view (.haul taskId op raised)
          (FleetState.view ⟨controller.dispatcher, fleet.hauls.set taskId controller.haul⟩) := by
    rintro raised controller ⟨snapshot', board', hat', hmove⟩
    have hfleet : FleetMove env fleet.view (.haul taskId op raised)
        (FleetState.view ⟨controller.dispatcher, fleet.hauls.set taskId controller.haul⟩) := by
      rw [view_set, hat'.snapshot_eq, hat'.board_eq]
      exact .haul hsnapshot hmove
    exact ⟨⟨h.sound.move hfleet trivial, hat'.backed⟩, hfleet⟩
  rw [onController, ends_focus]
  apply (HaulTaskController.ends_call hat h.sound.consistent (h.sound.tied hsnapshot) op).mono
  · intro returned controller hm
    exact hq returned _ (hmoved hm).1 (hmoved hm).2
  · intro controller hm
    exact he _ (hmoved hm).1 (hmoved hm).2

lemma ends_onRegistry (h : Good env fleet) (op : RegistryOp) (hn : op.Neutral)
    {Q : RobotRecord → FleetState → Prop} {E : FleetState → Prop}
    (hq : ∀ after, Good env after → after.hauls = fleet.hauls →
      (after.view = fleet.view ∨ FleetMove env fleet.view (.registry op) after.view) →
      (∀ returned, Q returned after) ∧ E after) :
    Ends (onRegistry (op.call env)) fleet Q E := by
  have houtcome := op.call_outcome h.backed.dependable
  have hafter : ∀ registry, registry = final (op.call env) fleet.dispatcher.registry →
      let after : FleetState := ⟨{ fleet.dispatcher with registry := registry }, fleet.hauls⟩
      Good env after ∧
        (after.view = fleet.view ∨ FleetMove env fleet.view (.registry op) after.view) := by
    intro registry hregistry
    rw [← hregistry] at houtcome
    cases houtcome with
    | same => exact ⟨h, .inl rfl⟩
    | stored hget heffect hname hkept hdb =>
      rename_i robot moved kept
      have hkey : moved.robotId = op.robotId := hname.trans (h.sound.consistent.named hget)
      have hview : FleetMove env fleet.view (.registry op)
          (FleetState.view ⟨{ fleet.dispatcher with registry := kept.stored moved },
            fleet.hauls⟩) := by
        have heq : FleetState.view ⟨{ fleet.dispatcher with registry := kept.stored moved },
            fleet.hauls⟩ = ⟨⟨fleet.view.board.robots.set op.robotId moved,
              fleet.view.board.assignments⟩, fleet.view.snapshot?⟩ := by
          simp only [FleetState.view, FleetDispatcher.board, RobotRegistry.stored_robots, hkept,
            hkey]
          rfl
        rw [heq]
        exact .registry hget heffect hname
      exact ⟨⟨h.sound.move hview hn, h.backed.stored kept hkept hdb moved⟩, .inr hview⟩
  rw [onRegistry, onDispatcher, FleetDispatcher.onRegistry, ends_focus, ends_focus]
  apply ends_self.mono
  · intro returned registry hregistry
    exact (hq _ (hafter registry hregistry).1 rfl (hafter registry hregistry).2).1 returned
  · intro registry hregistry
    exact (hq _ (hafter registry hregistry).1 rfl (hafter registry hregistry).2).2

lemma ends_assignTask (h : Good env fleet) {task : DispatchTask} {now : Datetime}
    {heartbeatTimeoutSec : Floating} {penalties : Dict String ℚ} :
    let P (after : FleetState) : Prop := Goes env
      ((FleetOp.assignTask task now heartbeatTimeoutSec penalties).Allows env) fleet after
    Ends (onDispatcher (FleetDispatcher.assignTask env task now heartbeatTimeoutSec penalties))
      fleet (fun _ => P) P := by
  intro P
  rw [onDispatcher, ends_focus]
  by_cases hcan : fleet.dispatcher.board.CanAssign env task now heartbeatTimeoutSec penalties
  · by_cases hconverts : env.Converts now
    · apply (FleetDispatcher.ends_assignTask h.backed h.sound.consistent hcan hconverts).mono
      · rintro assignment dispatcher ⟨hbinds, hbacked⟩
        exact Goes.of_move h (.bind hbinds) trivial (.inl rfl) hbacked
      · exact fun _ hfalse => hfalse.elim
    · obtain ⟨e, dispatcher, hrun, -, horphans, hbacked⟩ :=
        FleetDispatcher.run_assignTask_orphans h.backed h.sound.consistent hcan hconverts
      refine ends_of_error hrun ?_
      exact Goes.of_move h (.orphan horphans) trivial (.inr ⟨hconverts, rfl⟩) hbacked
  · obtain ⟨e, he⟩ := FleetDispatcher.run_assignTask_refused hcan
    exact ends_of_error he (Goes.refl h)

lemma ends_dispatchTasks (h : Good env fleet) {tasks : List DispatchTask} {now : Datetime}
    {heartbeatTimeoutSec : Floating} {penalties : Dict String ℚ} :
    let P (after : FleetState) : Prop := Goes env
      ((FleetOp.dispatchTasks tasks now heartbeatTimeoutSec penalties).Allows env) fleet after
    Ends (onDispatcher (FleetDispatcher.dispatchTasks env tasks now heartbeatTimeoutSec penalties))
      fleet (fun _ => P) P := by
  intro P
  have hmoves : ∀ board, FleetDispatcher.BindsSome tasks fleet.dispatcher.board board →
      Moves (FleetMove env)
        ((FleetOp.dispatchTasks tasks now heartbeatTimeoutSec penalties).Allows env) fleet.view
        ⟨board, fleet.snapshot?⟩ := by
    intro board hsome
    induction hsome with
    | refl => exact .refl _
    | tail _ hlast ih =>
      obtain ⟨task, htask, assignment, hbinds⟩ := hlast
      exact ih.trans (.single ⟨task, htask, .inl rfl⟩ (.bind hbinds))
  have hgoes : ∀ dispatcher : FleetDispatcher,
      FleetDispatcher.BindsSome tasks fleet.dispatcher.board dispatcher.board →
      dispatcher.Backed env → P ⟨dispatcher, fleet.hauls⟩ := by
    intro dispatcher hsome hbacked
    refine ⟨⟨?_, hbacked⟩, hmoves _ hsome⟩
    exact (hmoves _ hsome).invariant Sound (fun v l w hv hl hm => hv.move hm hl.allowed) h.sound
  rw [onDispatcher, ends_focus]
  apply (FleetDispatcher.ends_dispatchTasks h.backed h.sound.consistent tasks).mono
  · rintro _ dispatcher ⟨hsome, hbacked⟩
    exact hgoes dispatcher hsome hbacked
  · rintro dispatcher ⟨hsome | ⟨hconverts, task, htask, horphans⟩, hbacked⟩
    · exact hgoes dispatcher hsome hbacked
    · exact Goes.of_move h (.orphan horphans) trivial ⟨task, htask, .inr ⟨hconverts, rfl⟩⟩ hbacked

lemma ends_createHaul (h : Good env fleet) {taskId : ℤ}
    {pickupStation dropoffStation priority : String} {eventSink : Option (List FleetEvent)} :
    let P (after : FleetState) : Prop := Goes env
      ((FleetOp.createHaul taskId pickupStation dropoffStation priority eventSink).Allows env)
      fleet after
    Ends (createHaul env taskId pickupStation dropoffStation priority eventSink) fleet
      (fun _ => P) P := by
  intro P
  simp only [createHaul, ends_bind, ends_get]
  split_ifs with htaken
  · exact Goes.refl h
  · rw [ends_bind]
    cases hcreate : Haul.create taskId pickupStation dropoffStation priority eventSink with
    | error e => exact Goes.refl h
    | ok haul =>
      rw [ends_orRaise_ok]
      have hfresh : Fresh taskId haul.snapshot := by
        rw [Haul.create] at hcreate
        split_ifs at hcreate
        rw [← Except.ok.inj hcreate]
        exact ⟨rfl, rfl, rfl, rfl, rfl, rfl⟩
      have hnone : fleet.view.snapshot? taskId = none := by
        simp only [FleetState.view, FleetState.snapshot?, Option.map_eq_none_iff]
        exact Option.not_isSome_iff_eq_none.mp htaken
      have hat : HaulTaskController.At env ⟨fleet.dispatcher, haul⟩ haul.snapshot
          fleet.view.board := ⟨rfl, rfl, h.backed⟩
      rw [onController, ends_focus]
      apply HaulTaskController.ends_emit hat
      intro controller hafter
      have hmove : FleetMove env fleet.view (.create taskId)
          (FleetState.view ⟨controller.dispatcher, fleet.hauls.set taskId controller.haul⟩) := by
        rw [view_set, hafter.snapshot_eq, hafter.board_eq]
        exact .create hnone hfresh
      exact Goes.of_move h hmove trivial rfl hafter.backed

lemma ends_onHaul (h : Good env fleet) {taskId : ℤ} {op : HaulOp} :
    let P (after : FleetState) : Prop := Goes env ((FleetOp.haul taskId op).Allows env) fleet after
    Ends (onHaul taskId (op.call env)) fleet (fun _ => P) P := by
  intro P
  simp only [onHaul, ends_bind, ends_get]
  cases hget : fleet.hauls.get? taskId with
  | none => exact Goes.refl h
  | some haul =>
    apply ends_onController h hget op
    · intro _ after hgood hmove
      exact ⟨hgood, .single ⟨false, rfl⟩ hmove⟩
    · intro after hgood hmove
      exact ⟨hgood, .single ⟨true, rfl⟩ hmove⟩

section Monitor

variable {now : Datetime} {timeoutSec : Floating} {haulTasks : List (ℤ × ℤ)}

lemma get?_of_boundHaul {robot : RobotRecord} {controller : ℤ} {haul : Haul}
    (h : HeartbeatMonitor.boundHaul fleet haulTasks robot = some (controller, haul)) :
    fleet.hauls.get? controller = some haul := by
  simp only [HeartbeatMonitor.boundHaul, Option.bind_eq_some_iff, Option.map_eq_some_iff,
    Prod.mk.injEq] at h
  obtain ⟨_, _, _, _, _, hget, rfl, rfl⟩ := h
  exact hget

lemma ends_takeOffline (h : Good env fleet) {robot : RobotRecord} {requeuedTaskId : Option ℤ}
    {reassignmentBlocked : Bool} :
    let P (after : FleetState) : Prop :=
      Goes env ((FleetOp.sweep now timeoutSec haulTasks).Allows env) fleet after
    Ends (HeartbeatMonitor.takeOffline env timeoutSec robot requeuedTaskId reassignmentBlocked)
      fleet (fun _ => P) P := by
  intro P
  simp only [HeartbeatMonitor.takeOffline, ends_bind]
  apply ends_onRegistry h (.markOffline robot.robotId) trivial
  intro first hgood _ hfirst
  have hgoes : P first := by
    rcases hfirst with hview | hmove
    · exact .of_view h hview hgood.backed
    · exact .of_move h hmove trivial (.inr ⟨_, rfl⟩) hgood.backed
  refine ⟨fun _ => ?_, hgoes⟩
  apply ends_emit hgood
  intro _ after hview hafter _
  exact hgoes.trans (.of_view hgood hview hafter.backed)

lemma ends_sweepTimedOut (h : Good env fleet) {robot : RobotRecord} :
    let P (after : FleetState) : Prop :=
      Goes env ((FleetOp.sweep now timeoutSec haulTasks).Allows env) fleet after
    Ends (HeartbeatMonitor.sweepTimedOut env timeoutSec haulTasks robot) fleet (fun _ => P) P := by
  intro P
  simp only [HeartbeatMonitor.sweepTimedOut, ends_bind]
  apply ends_emit h
  intro _ first hview hgood _
  have hfirst : P first := .of_view h hview hgood.backed
  have hlast : ∀ middle requeuedTaskId reassignmentBlocked, P middle →
      Ends (HeartbeatMonitor.takeOffline env timeoutSec robot requeuedTaskId reassignmentBlocked)
        middle (fun _ => P) P := by
    intro middle requeuedTaskId reassignmentBlocked hmiddle
    apply (ends_takeOffline hmiddle.good).mono
    · exact fun _ _ hafter => hmiddle.trans hafter
    · exact fun _ hafter => hmiddle.trans hafter
  rw [ends_get]
  cases hbound : HeartbeatMonitor.boundHaul first haulTasks robot with
  | none => exact hlast _ _ _ hfirst
  | some bound =>
    obtain ⟨controller, haul⟩ := bound
    dsimp only
    split_ifs
    · exact hlast _ _ _ hfirst
    · rw [ends_bind]
      apply ends_onController hgood (get?_of_boundHaul hbound)
        (.requeue (HeartbeatMonitor.timeoutReason robot timeoutSec))
      · intro _ middle hmiddle hmove
        apply hlast
        exact hfirst.trans (.of_move hgood hmove trivial (.inl ⟨_, _, _, rfl⟩) hmiddle.backed)
      · intro middle hmiddle hmove
        exact hfirst.trans (.of_move hgood hmove trivial (.inl ⟨_, _, _, rfl⟩) hmiddle.backed)

lemma ends_sweepLoop (h : Good env fleet) (robots : List RobotRecord) :
    let P (after : FleetState) : Prop :=
      Goes env ((FleetOp.sweep now timeoutSec haulTasks).Allows env) fleet after
    Ends (HeartbeatMonitor.sweepLoop env now timeoutSec haulTasks robots) fleet (fun _ => P) P := by
  induction robots generalizing fleet with
  | nil => exact Goes.refl h
  | cons robot robots ih =>
    intro P
    simp only [HeartbeatMonitor.sweepLoop]
    split_ifs
    · exact ih h
    · rw [ends_bind]
      cases isHeartbeatValid env robot now timeoutSec with
      | error e => exact Goes.refl h
      | ok valid =>
        rw [ends_orRaise_ok]
        split_ifs
        · exact ih h
        · rw [ends_bind]
          apply (ends_sweepTimedOut h).mono
          · intro item middle hmiddle
            rw [ends_bind]
            apply (ih hmiddle.good).mono
            · exact fun _ _ hafter => hmiddle.trans hafter
            · exact fun _ hafter => hmiddle.trans hafter
          · exact fun _ hafter => hafter

lemma ends_reassignLoop (h : Good env fleet) (controllers : List ℤ)
    (hmem : ∀ controller ∈ controllers, controller ∈ haulTasks.map Prod.snd) :
    let P (after : FleetState) : Prop :=
      Goes env ((FleetOp.reassignRequeued haulTasks now timeoutSec).Allows env) fleet after
    Ends (HeartbeatMonitor.reassignLoop env now timeoutSec controllers) fleet (fun _ => P) P := by
  induction controllers generalizing fleet with
  | nil => exact Goes.refl h
  | cons controller controllers ih =>
    intro P
    have hlater := fun later hlater => hmem later (List.mem_cons_of_mem controller hlater)
    simp only [HeartbeatMonitor.reassignLoop, ends_bind, ends_get]
    split_ifs with hwms
    · exact ih h hlater
    · rw [not_not] at hwms
      have hhead : ∀ {raised : Bool} {middle : FleetState}, Good env middle →
          FleetMove env fleet.view (.haul controller (.assign now timeoutSec) raised) middle.view →
          P middle :=
        fun hgood hmove => .of_move h hmove trivial
          ⟨controller, hmem controller List.mem_cons_self, hwms, _, rfl⟩ hgood.backed
      simp only [onHaul, ends_bind, ends_get]
      cases hget : fleet.hauls.get? controller with
      | none => exact Goes.refl h
      | some haul =>
        apply ends_onController h hget (.assign now timeoutSec)
        · intro assigned middle hgood hmove
          apply (ih hgood hlater).mono
          · exact fun _ _ hafter => (hhead hgood hmove).trans hafter
          · exact fun _ hafter => (hhead hgood hmove).trans hafter
        · intro middle hgood hmove
          exact hhead hgood hmove

end Monitor

/-- Every call, returned or raised, is a sequence of moves that it allows. -/
theorem step_goes (h : Good env fleet) {op : FleetOp} (hn : op.Neutral) :
    Goes env (op.Allows env) fleet (step env fleet op) := by
  have hends : Ends (op.call env) fleet (fun _ => Goes env (op.Allows env) fleet)
      (Goes env (op.Allows env) fleet) := by
    cases op with
    | registry op =>
      rw [FleetOp.call, ends_bind]
      apply ends_onRegistry h op hn
      intro after hgood _ hmove
      have hgoes : Goes env ((FleetOp.registry op).Allows env) fleet after := by
        rcases hmove with hview | hmove
        · exact .of_view h hview hgood.backed
        · exact .of_move h hmove hn ⟨rfl, hn⟩ hgood.backed
      exact ⟨fun _ => hgoes, hgoes⟩
    | createHaul taskId pickupStation dropoffStation priority eventSink =>
      exact ends_createHaul h
    | haul taskId op =>
      rw [FleetOp.call, ends_bind]
      exact ends_onHaul h
    | assignTask task now heartbeatTimeoutSec penalties =>
      rw [FleetOp.call, ends_bind]
      exact ends_assignTask h
    | dispatchTasks tasks now heartbeatTimeoutSec penalties =>
      rw [FleetOp.call, ends_bind]
      exact ends_dispatchTasks h
    | setAssignmentStatus => exact hn.elim
    | sweep now timeoutSec haulTasks =>
      simp only [FleetOp.call, HeartbeatMonitor.sweep, ends_bind, ends_get]
      exact ends_sweepLoop h _
    | reassignRequeued haulTasks now timeoutSec =>
      simp only [FleetOp.call, HeartbeatMonitor.reassignRequeued, ends_bind]
      exact ends_reassignLoop h _ (fun _ hmem => hmem)
  exact hends.final

theorem step_haul (h : Good env fleet) {taskId : ℤ} {snapshot : HaulTaskSnapshot}
    (hget : fleet.snapshot? taskId = some snapshot) (op : HaulOp) :
    let after := step env fleet (.haul taskId op)
    ∃ snapshot', HaulMove env snapshot fleet.dispatcher.board op
        (raises ((FleetOp.haul taskId op).call env) fleet) snapshot' after.dispatcher.board ∧
      after.snapshot? = Function.update fleet.snapshot? taskId (some snapshot') := by
  obtain ⟨haul, hhaul, _⟩ := Option.map_eq_some_iff.mp hget
  have hends : Ends ((FleetOp.haul taskId op).call env) fleet
      (fun _ after => FleetMove env fleet.view (.haul taskId op false) after.view)
      (fun after => FleetMove env fleet.view (.haul taskId op true) after.view) := by
    simp only [FleetOp.call, onHaul, ends_bind, ends_get, hhaul]
    apply ends_onController h hhaul op
    · exact fun _ _ _ hmove => hmove
    · exact fun _ _ hmove => hmove
  have hmove : FleetMove env fleet.view
      (.haul taskId op (raises ((FleetOp.haul taskId op).call env) fleet))
      (step env fleet (.haul taskId op)).view := by
    cases hraises : raises ((FleetOp.haul taskId op).call env) fleet with
    | false =>
      obtain ⟨_, hafter⟩ := hends.of_returns hraises
      exact hafter
    | true => exact hends.of_raises hraises
  obtain ⟨before, snapshot', hsnapshot, hmove, hupdate⟩ := hmove.haul_cases
  obtain rfl : before = snapshot := Option.some.inj (hsnapshot.symm.trans hget)
  exact ⟨snapshot', hmove, hupdate⟩

lemma returns_iff (h : Good env fleet) {taskId : ℤ} {snapshot : HaulTaskSnapshot}
    (hget : fleet.snapshot? taskId = some snapshot) (op : HaulOp) :
    raises ((FleetOp.haul taskId op).call env) fleet = false ↔
      op.Accepts env snapshot fleet.dispatcher.board := by
  obtain ⟨snapshot', hmove, -⟩ := step_haul h hget op
  exact hmove.returned_iff (h.sound.tied hget).coherent

lemma step_haul_none {taskId : ℤ} (hget : fleet.snapshot? taskId = none) (op : HaulOp) :
    step env fleet (.haul taskId op) = fleet := by
  have hhaul : fleet.hauls.get? taskId = none := Option.map_eq_none_iff.mp hget
  simp [step, FleetOp.call, onHaul, final, hhaul]

lemma step_invariant (I : FleetView → Prop) (guard : FleetView → FleetLabel → Prop)
    (hmoves : ∀ view label view', Sound view → I view → FleetMove env view label view' →
      label.Allowed → guard view label → I view')
    (h : Good env fleet) (hi : I fleet.view) {op : FleetOp} (hn : op.Neutral)
    (hhaul : ∀ taskId haulOp raised, op = .haul taskId haulOp →
      guard fleet.view (.haul taskId haulOp raised))
    (hother : (∀ taskId haulOp, op ≠ .haul taskId haulOp) → ∀ view label, op.Allows env view label →
      guard view label) :
    I (step env fleet op).view := by
  by_cases his : ∃ taskId haulOp, op = .haul taskId haulOp
  · obtain ⟨taskId, haulOp, rfl⟩ := his
    cases hget : fleet.snapshot? taskId with
    | none =>
      rw [step_haul_none hget]
      exact hi
    | some snapshot =>
      obtain ⟨snapshot', hmove, hsnapshots⟩ := step_haul h hget haulOp
      have hview : (step env fleet (.haul taskId haulOp)).view =
          ⟨(step env fleet (.haul taskId haulOp)).dispatcher.board,
            Function.update fleet.snapshot? taskId (some snapshot')⟩ := by
        rw [FleetState.view, hsnapshots]
      rw [hview]
      exact hmoves fleet.view _ _ h.sound hi (.haul hget hmove) trivial (hhaul taskId haulOp _ rfl)
  · have hmoves' := (step_goes h hn).moves
    have hguard := hother (fun taskId haulOp heq => his ⟨taskId, haulOp, heq⟩)
    have hboth : Sound (step env fleet op).view ∧ I (step env fleet op).view := by
      apply hmoves'.invariant (fun view => Sound view ∧ I view)
      · rintro view label view' ⟨hsound, hview⟩ hlabel hmove
        exact ⟨hsound.move hmove hlabel.allowed,
          hmoves view label view' hsound hview hmove hlabel.allowed (hguard view label hlabel)⟩
      · exact ⟨h.sound, hi⟩
    exact hboth.2

end Steps

end Fleet
