import AmrWarehouse.Fleet.AssignTask

/-! The monitor's loop over the hauls that wait for another robot. -/

namespace Fleet

open Library

structure Served (env : Environment) (taskId : ℤ) (now : Datetime) (timeout : Floating)
    (before after : Board) : Prop where
  taken : ∃ robot ∈ FleetDispatcher.eligibleRobots env now timeout before.robots,
    FleetDispatcher.eligibleRobots env now timeout after.robots =
      (FleetDispatcher.eligibleRobots env now timeout before.robots).erase robot
  readable : Readable env before.robots now timeout → Readable env after.robots now timeout
  free_iff : ∀ other, after.Free other ↔ other ≠ taskId ∧ before.Free other

section Board

variable {env : Environment} {board : Board} {task : DispatchTask} {now : Datetime}
  {timeout : Floating} {penalties : Dict String ℚ}

open FleetDispatcher in
lemma canAssign_iff (hnamed : Registered board.robots) :
    board.CanAssign env task now timeout penalties ↔
      board.Free task.taskId ∧ Readable env board.robots now timeout ∧
        located env task.pickupStation = true ∧
        eligibleRobots env now timeout board.robots ≠ [] := by
  have hregistered : Registered board.registry.robots := hnamed
  constructor
  · rintro ⟨hfree, decision, hselect⟩
    obtain ⟨hreadable, hnone⟩ := none_of_selectRobot hregistered hselect
    have hsome := mt hnone.mpr (by simp)
    rw [not_or, Bool.not_eq_false] at hsome
    exact ⟨hfree, hreadable, hsome⟩
  · rintro ⟨hfree, hreadable, hlocated, hsome⟩
    refine ⟨hfree, ?_⟩
    rw [selectRobot_eq hregistered hreadable hlocated]
    cases hleast : (eligibleRobots env now timeout board.registry.robots).argmin
        (rank env penalties task) with
    | none => exact absurd (List.argmin_eq_none.mp hleast) hsome
    | some robot => exact ⟨_, rfl⟩

end Board

section Calls

variable {env : Environment} {now : Datetime} {timeout : Floating}

lemma ends_assignTask_served {dispatcher : FleetDispatcher} {task : DispatchTask}
    {penalties : Dict String ℚ} (hb : dispatcher.Backed env)
    (hc : Consistent dispatcher.registry.robots)
    (hcan : dispatcher.board.CanAssign env task now timeout penalties)
    (hconverts : env.Converts now) :
    Ends (FleetDispatcher.assignTask env task now timeout penalties) dispatcher
      (fun _ after => Served env task.taskId now timeout dispatcher.board after.board)
      (fun _ => False) := by
  have hnamed : Registered dispatcher.registry.robots := fun _ _ hget => hc.named hget
  obtain ⟨decision, robot, hchosen⟩ := FleetDispatcher.exists_chosen hcan
  obtain ⟨-, hleast, -⟩ := hchosen.least hnamed
  have hmem := List.argmin_mem hleast
  apply (FleetDispatcher.ends_assignTask_chosen hchosen (hb.uninterrupted hconverts)).mono
  · intro assignment after hassigned
    exact ⟨⟨robot, hmem, hassigned.eligibleRobots_eq hnamed
      (FleetDispatcher.get?_of_eligible hnamed hmem)⟩, hassigned.readable, hassigned.free_iff⟩
  · exact fun _ hfalse => hfalse

namespace HaulTaskController

variable {controller : HaulTaskController} {snapshot : HaulTaskSnapshot} {board : Board}

lemma ends_assignRobot_served (h : At env controller snapshot board) (hc : Consistent board.robots)
    (previousWms : WmsTaskStatus) :
    Ends (assignRobot env previousWms now timeout) controller
      (fun returned after => returned.taskId = snapshot.taskId ∧
        Served env snapshot.taskId now timeout board after.dispatcher.board) (fun _ => True) := by
  simp only [assignRobot, ends_bind, ends_currentSnapshot, h.snapshot_eq]
  cases htask : DispatchTask.create snapshot.taskId snapshot.pickupStation
      (some snapshot.dropoffStation) snapshot.priority with
  | error e => trivial
  | ok task =>
    have hid : task.taskId = snapshot.taskId := by
      rw [DispatchTask.create] at htask
      split_ifs at htask
      rw [← Except.ok.inj htask]
    rw [ends_orRaise_ok, ends_onDispatcher]
    have hregistry : Consistent controller.dispatcher.registry.robots := by
      rw [h.robots_eq]
      exact hc
    by_cases hcan : controller.dispatcher.board.CanAssign env task now timeout Dict.empty
    · by_cases hconverts : env.Converts now
      swap
      · obtain ⟨e, after, hrun, -⟩ :=
          FleetDispatcher.run_assignTask_orphans h.backed hregistry hcan hconverts
        exact ends_of_error hrun trivial
      apply (ends_assignTask_served h.backed hregistry hcan hconverts).mono
      · intro assignment dispatcher hserved
        rw [hid, h.board_eq] at hserved
        simp only [ends_replaceSnapshot, setWmsStatus, ends_bind, ends_currentSnapshot]
        cases hwms : assertWmsTransitionAllowed controller.haul.snapshot.wmsStatus .assigned with
        | error e => trivial
        | ok _ =>
          rw [ends_orRaise_ok]
          have htaskId : controller.haul.snapshot.taskId = snapshot.taskId := by
            rw [h.snapshot_eq]
          apply ends_whenever
          · intro _
            simp only [emit, ends_bind, ends_currentSnapshot, ends_onDispatcher]
            apply FleetDispatcher.ends_emitEvent
            intro fleetEvent after hsame
            rw [ends_modify]
            refine ⟨htaskId, ?_⟩
            rw [hsame.board_eq]
            exact hserved
          · intro _
            exact ⟨htaskId, hserved⟩
      · exact fun _ _ => trivial
    · obtain ⟨e, hrun⟩ := FleetDispatcher.run_assignTask_refused hcan
      exact ends_of_error hrun trivial

lemma ends_assign_served (h : At env controller snapshot board) (hc : Consistent board.robots) :
    Ends (assign env now timeout) controller
      (fun returned after => returned.taskId = snapshot.taskId ∧
        Served env snapshot.taskId now timeout board after.dispatcher.board) (fun _ => True) := by
  simp only [assign, ends_bind, ends_currentSnapshot, h.snapshot_eq]
  split_ifs with hopen
  · rw [ends_bind]
    apply ends_whenever
    · intro _
      by_cases hreset :
          HaulExecutionPhase.idle ∈ allowedExecutionTransitions snapshot.executionPhase
      · apply ends_setExecutionPhase h hreset
        intro middle hmiddle
        exact ends_assignRobot_served hmiddle hc _
      · exact ends_setExecutionPhase_refused h hreset trivial
    · intro _
      exact ends_assignRobot_served h hc _
  · trivial

end HaulTaskController

end Calls

structure Reassigned (env : Environment) (controller : ℤ) (now : Datetime) (timeout : Floating)
    (before after : FleetState) : Prop where
  good : Good env after
  served : Served env controller now timeout before.dispatcher.board after.dispatcher.board
  snapshots : ∃ moved : HaulTaskSnapshot, moved.wmsStatus = .assigned ∧
    after.snapshot? = Function.update before.snapshot? controller (some moved)

section Turns

variable {env : Environment} {fleet : FleetState} {controller : ℤ} {snapshot : HaulTaskSnapshot}
  {now : Datetime} {timeout : Floating}

lemma HaulMove.assigned_of_returned {board board' : Board} {moved : HaulTaskSnapshot}
    (h : HaulMove env snapshot board (.assign now timeout) false moved board') :
    moved.wmsStatus = .assigned := by
  cases h with
  | assigned _ _ _ _ => rfl
  | arrived _ _ _ hleg _ _ => cases hleg
  | closed _ _ hclosing _ _ _ => cases hclosing

lemma ends_onHaul_served (h : Good env fleet) (hget : fleet.snapshot? controller = some snapshot) :
    Ends (onHaul controller (HaulTaskController.assign env now timeout)) fleet
      (fun assigned after => assigned.taskId = controller ∧
        Served env controller now timeout fleet.dispatcher.board after.dispatcher.board)
      (fun _ => True) := by
  have hid := h.sound.owned hget
  obtain ⟨haul, hhaul, rfl⟩ := Option.map_eq_some_iff.mp hget
  have hat : HaulTaskController.At env ⟨fleet.dispatcher, haul⟩ haul.snapshot
      fleet.dispatcher.board := ⟨rfl, rfl, h.backed⟩
  have hserved : Ends (HaulTaskController.assign env now timeout) ⟨fleet.dispatcher, haul⟩
      (fun assigned after => assigned.taskId = haul.snapshot.taskId ∧
        Served env haul.snapshot.taskId now timeout fleet.dispatcher.board after.dispatcher.board)
      (fun _ => True) := HaulTaskController.ends_assign_served hat h.sound.consistent
  rw [hid] at hserved
  simp only [onHaul, ends_bind, ends_get, hhaul, onController, ends_focus]
  exact hserved

lemma run_turn (h : Good env fleet) (hget : fleet.snapshot? controller = some snapshot)
    (haccepts : (HaulOp.assign now timeout).Accepts env snapshot fleet.dispatcher.board) :
    ∃ assigned after,
      (onHaul controller (HaulTaskController.assign env now timeout)).run fleet =
        .ok assigned after ∧ assigned.taskId = controller ∧
      Reassigned env controller now timeout fleet after := by
  have hreturns := (returns_iff h hget (.assign now timeout)).mpr haccepts
  obtain ⟨_, after, hcall⟩ := exists_of_returns hreturns
  obtain ⟨moved, hmove, hsnapshots⟩ := step_haul h hget (.assign now timeout)
  have hgoes : Goes env ((FleetOp.haul controller (.assign now timeout)).Allows env) fleet
      (step env fleet (.haul controller (.assign now timeout))) := step_goes h trivial
  rw [hreturns] at hmove
  rw [step, final_of_ok hcall] at hsnapshots hgoes
  obtain ⟨assigned, hrun⟩ := run_of_forgotten hcall
  obtain ⟨hid, hserved⟩ := (ends_onHaul_served h hget).of_ok hrun
  exact ⟨assigned, after, hrun, hid, hgoes.good, hserved, moved, hmove.assigned_of_returned,
    hsnapshots⟩

lemma run_turn_refused (h : Good env fleet) (hget : fleet.snapshot? controller = some snapshot)
    (haccepts : ¬ (HaulOp.assign now timeout).Accepts env snapshot fleet.dispatcher.board) :
    ∃ e after, (onHaul controller (HaulTaskController.assign env now timeout)).run fleet =
      .error e after := by
  apply exists_of_raises
  have hraises := mt (returns_iff h hget (.assign now timeout)).mp haccepts
  rw [Bool.not_eq_false] at hraises
  rw [← raises_forgotten]
  exact hraises

open HeartbeatMonitor

variable {controllers : List ℤ}

lemma run_passed (hpassed : (fleet.snapshot? controller).map HaulTaskSnapshot.wmsStatus ≠
      some .requeued) :
    (reassignLoop env now timeout (controller :: controllers)).run fleet =
      (reassignLoop env now timeout controllers).run fleet := by
  rw [reassignLoop]
  simp only [EStateM.run_bind, EStateM.run_get]
  rw [if_pos hpassed]

lemma run_called (hcalled : (fleet.snapshot? controller).map HaulTaskSnapshot.wmsStatus =
      some .requeued) :
    (reassignLoop env now timeout (controller :: controllers)).run fleet =
      (onHaul controller (HaulTaskController.assign env now timeout) >>= fun assigned =>
        (assigned :: ·) <$> reassignLoop env now timeout controllers).run fleet := by
  rw [reassignLoop]
  simp only [EStateM.run_bind, EStateM.run_get]
  rw [if_neg (not_not.mpr hcalled)]
  rfl

lemma run_accepted (h : Good env fleet) (hget : fleet.snapshot? controller = some snapshot)
    (hwms : snapshot.wmsStatus = .requeued)
    (haccepts : (HaulOp.assign now timeout).Accepts env snapshot fleet.dispatcher.board) :
    ∃ first middle, first.taskId = controller ∧
      Reassigned env controller now timeout fleet middle ∧
      (reassignLoop env now timeout (controller :: controllers)).run fleet =
        ((first :: ·) <$> reassignLoop env now timeout controllers).run middle := by
  obtain ⟨first, middle, hfirst, hid, hturn⟩ := run_turn h hget haccepts
  refine ⟨first, middle, hid, hturn, ?_⟩
  rw [run_called (by rw [hget, Option.map_some, hwms]), EStateM.run_bind, hfirst]

lemma raises_refused (h : Good env fleet) (hget : fleet.snapshot? controller = some snapshot)
    (hwms : snapshot.wmsStatus = .requeued)
    (hrefuses : ¬ (HaulOp.assign now timeout).Accepts env snapshot fleet.dispatcher.board) :
    raises (reassignLoop env now timeout (controller :: controllers)) fleet = true := by
  obtain ⟨e, middle, hfirst⟩ := run_turn_refused h hget hrefuses
  rw [raises, run_called (by rw [hget, Option.map_some, hwms]), EStateM.run_bind, hfirst]

end Turns

def requeuedHauls (fleet : FleetState) (controllers : List ℤ) : List ℤ :=
  controllers.filter fun controller =>
    decide ((fleet.snapshot? controller).map HaulTaskSnapshot.wmsStatus = some .requeued)

/-- Nothing about the haul itself stands in the way of another robot. -/
structure Reassignable (env : Environment) (board : Board) (snapshot : HaulTaskSnapshot) :
    Prop where
  phase_eq : snapshot.executionPhase = .requeued
  priority_mem : snapshot.priority ∈ taskPriorities
  located_eq : located env snapshot.pickupStation = true
  free : board.Free snapshot.taskId

/-- All requeued hauls can go ahead, and there is a robot for each of them. -/
structure Servable (env : Environment) (fleet : FleetState) (controllers : List ℤ) (now : Datetime)
    (timeout : Floating) : Prop where
  readable : requeuedHauls fleet controllers ≠ [] →
    Readable env fleet.registry.robots now timeout
  converts : requeuedHauls fleet controllers ≠ [] → env.Converts now
  reassignable : ∀ controller ∈ controllers, ∀ snapshot,
    fleet.snapshot? controller = some snapshot → snapshot.wmsStatus = .requeued →
      Reassignable env fleet.dispatcher.board snapshot
  enough : (requeuedHauls fleet controllers).length ≤
    (FleetDispatcher.eligibleRobots env now timeout fleet.registry.robots).length

section Loop

variable {env : Environment} {fleet after : FleetState} {controller : ℤ}
  {snapshot : HaulTaskSnapshot} {now : Datetime} {timeout : Floating} {controllers : List ℤ}

lemma requeuedHauls_called (hcalled : (fleet.snapshot? controller).map HaulTaskSnapshot.wmsStatus =
      some .requeued) :
    requeuedHauls fleet (controller :: controllers) =
      controller :: requeuedHauls fleet controllers := by
  rw [requeuedHauls, List.filter_cons_of_pos (by simpa using hcalled)]
  rfl

lemma requeuedHauls_passed (hpassed : (fleet.snapshot? controller).map HaulTaskSnapshot.wmsStatus ≠
      some .requeued) :
    requeuedHauls fleet (controller :: controllers) = requeuedHauls fleet controllers := by
  rw [requeuedHauls, List.filter_cons_of_neg (by simpa using hpassed)]
  rfl

lemma accepts_iff {board : Board} (hnamed : Registered board.robots)
    (hwms : snapshot.wmsStatus = .requeued) :
    (HaulOp.assign now timeout).Accepts env snapshot board ↔
      (Reassignable env board snapshot ∧ Readable env board.robots now timeout ∧
        FleetDispatcher.eligibleRobots env now timeout board.robots ≠ []) ∧ env.Converts now := by
  have hcreate : ∀ h : snapshot.priority ∈ taskPriorities,
      DispatchTask.create snapshot.taskId snapshot.pickupStation (some snapshot.dropoffStation)
        snapshot.priority = .ok ⟨snapshot.taskId, snapshot.pickupStation,
          some snapshot.dropoffStation, snapshot.priority, h⟩ := by
    intro h
    rw [DispatchTask.create, dif_pos h]
  constructor
  · rintro ⟨⟨hopen, task, htask, hcan⟩, hconverts⟩
    have hphase : snapshot.executionPhase = .requeued := by
      rcases hopen with hpending | ⟨-, hphase⟩
      · simp [hwms] at hpending
      · exact hphase
    have hpriority : snapshot.priority ∈ taskPriorities := by
      by_contra hnot
      rw [DispatchTask.create, dif_neg hnot] at htask
      simp at htask
    rw [hcreate hpriority] at htask
    obtain rfl := Except.ok.inj htask
    obtain ⟨hfree, hreadable, hlocated, hsome⟩ := (canAssign_iff hnamed).mp hcan
    exact ⟨⟨⟨hphase, hpriority, hlocated, hfree⟩, hreadable, hsome⟩, hconverts⟩
  · rintro ⟨⟨hready, hreadable, hsome⟩, hconverts⟩
    refine ⟨⟨.inr ⟨hwms, hready.phase_eq⟩, _, hcreate hready.priority_mem, ?_⟩, hconverts⟩
    exact (canAssign_iff hnamed).mpr ⟨hready.free, hreadable, hready.located_eq, hsome⟩

lemma Reassigned.snapshot_of_ne (h : Reassigned env controller now timeout fleet after) {other : ℤ}
    (hne : other ≠ controller) : after.snapshot? other = fleet.snapshot? other := by
  obtain ⟨moved, -, hsnapshots⟩ := h.snapshots
  rw [hsnapshots, Function.update_of_ne hne]

lemma Reassigned.requeuedHauls_eq (h : Reassigned env controller now timeout fleet after)
    (hnew : controller ∉ controllers) :
    requeuedHauls after controllers = requeuedHauls fleet controllers := by
  apply List.filter_congr
  intro other hother
  rw [h.snapshot_of_ne (fun heq => hnew (heq ▸ hother))]

lemma Reassigned.servable_iff (hgood : Good env fleet)
    (h : Reassigned env controller now timeout fleet after) (hnew : controller ∉ controllers)
    (hreadable : Readable env fleet.registry.robots now timeout) (hconverts : env.Converts now) :
    Servable env after controllers now timeout ↔
      (∀ other ∈ controllers, ∀ snapshot, fleet.snapshot? other = some snapshot →
        snapshot.wmsStatus = .requeued → Reassignable env fleet.dispatcher.board snapshot) ∧
      (requeuedHauls fleet controllers).length + 1 ≤
        (FleetDispatcher.eligibleRobots env now timeout fleet.registry.robots).length := by
  obtain ⟨robot, hmem, herase⟩ := h.served.taken
  have hlength : (FleetDispatcher.eligibleRobots env now timeout after.registry.robots).length + 1 =
      (FleetDispatcher.eligibleRobots env now timeout fleet.registry.robots).length := by
    have hpos := List.length_pos_of_mem hmem
    have hafter := congrArg List.length herase
    rw [List.length_erase_of_mem hmem] at hafter
    change
      (FleetDispatcher.eligibleRobots env now timeout after.dispatcher.board.robots).length + 1 =
        (FleetDispatcher.eligibleRobots env now timeout fleet.dispatcher.board.robots).length
    omega
  have hsame : ∀ other ∈ controllers, ∀ snapshot, fleet.snapshot? other = some snapshot →
      (Reassignable env after.dispatcher.board snapshot ↔
        Reassignable env fleet.dispatcher.board snapshot) := by
    intro other hother snapshot hget
    have hne : snapshot.taskId ≠ controller := by
      rw [hgood.sound.owned hget]
      exact fun heq => hnew (heq ▸ hother)
    have hfree := (h.served.free_iff snapshot.taskId).trans (and_iff_right hne)
    constructor
    · exact fun hready => ⟨hready.phase_eq, hready.priority_mem, hready.located_eq,
        hfree.mp hready.free⟩
    · exact fun hready => ⟨hready.phase_eq, hready.priority_mem, hready.located_eq,
        hfree.mpr hready.free⟩
  constructor
  · intro hservable
    refine ⟨?_, ?_⟩
    · intro other hother snapshot hget hwms
      have hne : other ≠ controller := fun heq => hnew (heq ▸ hother)
      rw [← h.snapshot_of_ne hne] at hget
      have hready := hservable.reassignable other hother snapshot hget hwms
      rw [h.snapshot_of_ne hne] at hget
      exact (hsame other hother snapshot hget).mp hready
    · have henough := hservable.enough
      rw [h.requeuedHauls_eq hnew] at henough
      omega
  · rintro ⟨hready, henough⟩
    refine ⟨fun _ => h.served.readable hreadable, fun _ => hconverts, ?_, ?_⟩
    · intro other hother snapshot hget hwms
      rw [h.snapshot_of_ne (fun heq => hnew (heq ▸ hother))] at hget
      exact (hsame other hother snapshot hget).mpr (hready other hother snapshot hget hwms)
    · rw [h.requeuedHauls_eq hnew]
      omega

lemma servable_passed (hpassed : (fleet.snapshot? controller).map HaulTaskSnapshot.wmsStatus ≠
      some .requeued) :
    Servable env fleet (controller :: controllers) now timeout ↔
      Servable env fleet controllers now timeout := by
  have hsame : requeuedHauls fleet (controller :: controllers) =
      requeuedHauls fleet controllers := requeuedHauls_passed hpassed
  constructor
  · rintro ⟨hreadable, hconverts, hready, henough⟩
    rw [hsame] at hreadable hconverts henough
    exact ⟨hreadable, hconverts,
      fun other hother => hready other (List.mem_cons_of_mem controller hother), henough⟩
  · rintro ⟨hreadable, hconverts, hready, henough⟩
    rw [← hsame] at hreadable hconverts henough
    refine ⟨hreadable, hconverts, ?_, henough⟩
    intro other hother snapshot hget hwms
    rcases List.mem_cons.mp hother with rfl | hlater
    · simp [hget, hwms] at hpassed
    · exact hready other hlater snapshot hget hwms

lemma servable_called (hget : fleet.snapshot? controller = some snapshot)
    (hwms : snapshot.wmsStatus = .requeued)
    (hready : Reassignable env fleet.dispatcher.board snapshot)
    (hreadable : Readable env fleet.registry.robots now timeout) (hconverts : env.Converts now) :
    Servable env fleet (controller :: controllers) now timeout ↔
      (∀ other ∈ controllers, ∀ snapshot, fleet.snapshot? other = some snapshot →
        snapshot.wmsStatus = .requeued → Reassignable env fleet.dispatcher.board snapshot) ∧
      (requeuedHauls fleet controllers).length + 1 ≤
        (FleetDispatcher.eligibleRobots env now timeout fleet.registry.robots).length := by
  have hcalled : requeuedHauls fleet (controller :: controllers) =
      controller :: requeuedHauls fleet controllers :=
    requeuedHauls_called (by rw [hget, Option.map_some, hwms])
  constructor
  · intro hservable
    refine ⟨fun other hother => hservable.reassignable other
      (List.mem_cons_of_mem controller hother), ?_⟩
    have henough := hservable.enough
    rwa [hcalled, List.length_cons] at henough
  · rintro ⟨hothers, henough⟩
    refine ⟨fun _ => hreadable, fun _ => hconverts, ?_, ?_⟩
    · intro other hother found hfound hrequeued
      rcases List.mem_cons.mp hother with rfl | hlater
      · obtain rfl := Option.some.inj (hget.symm.trans hfound)
        exact hready
      · exact hothers other hlater found hfound hrequeued
    · rwa [hcalled, List.length_cons]

lemma accepts_of_servable (hnamed : Registered fleet.dispatcher.board.robots)
    (hget : fleet.snapshot? controller = some snapshot) (hwms : snapshot.wmsStatus = .requeued)
    (hservable : Servable env fleet (controller :: controllers) now timeout) :
    (HaulOp.assign now timeout).Accepts env snapshot fleet.dispatcher.board := by
  have hcalled : requeuedHauls fleet (controller :: controllers) =
      controller :: requeuedHauls fleet controllers :=
    requeuedHauls_called (by rw [hget, Option.map_some, hwms])
  rw [accepts_iff hnamed hwms]
  refine ⟨⟨hservable.reassignable controller List.mem_cons_self snapshot hget hwms,
    hservable.readable (by simp [hcalled]), ?_⟩, hservable.converts (by simp [hcalled])⟩
  intro hempty
  have henough := hservable.enough
  have hnone : FleetDispatcher.eligibleRobots env now timeout fleet.registry.robots = [] := hempty
  rw [hcalled, hnone] at henough
  simp at henough

open HeartbeatMonitor

lemma loop_returns_iff (h : Good env fleet) (hdistinct : controllers.Nodup) :
    raises (reassignLoop env now timeout controllers) fleet = false ↔
      Servable env fleet controllers now timeout := by
  induction controllers generalizing fleet with
  | nil =>
    refine iff_of_true rfl ⟨?_, ?_, ?_, ?_⟩
    · intro hsome
      exact absurd rfl hsome
    · intro hsome
      exact absurd rfl hsome
    · simp
    · simp [requeuedHauls]
  | cons controller controllers ih =>
    rw [List.nodup_cons] at hdistinct
    by_cases hcalled : (fleet.snapshot? controller).map HaulTaskSnapshot.wmsStatus = some .requeued
    · obtain ⟨snapshot, hget, hwms⟩ := Option.map_eq_some_iff.mp hcalled
      have hnamed : Registered fleet.dispatcher.board.robots :=
        fun _ _ hrobot => h.sound.consistent.named hrobot
      by_cases haccepts :
          (HaulOp.assign now timeout).Accepts env snapshot fleet.dispatcher.board
      · obtain ⟨first, middle, -, hturn, hrun⟩ := run_accepted h hget hwms haccepts
        obtain ⟨⟨hready, hreadable, -⟩, hconverts⟩ := (accepts_iff hnamed hwms).mp haccepts
        rw [raises_congr hrun, raises_map, ih hturn.good hdistinct.2,
          hturn.servable_iff h hdistinct.1 hreadable hconverts,
          servable_called hget hwms hready hreadable hconverts]
      · refine iff_of_false (by simp [raises_refused h hget hwms haccepts]) ?_
        exact fun hservable => haccepts (accepts_of_servable hnamed hget hwms hservable)
    · rw [raises_congr (run_passed hcalled), ih h hdistinct.2, servable_passed hcalled]

lemma loop_done (h : Good env fleet) (hdistinct : controllers.Nodup)
    {assigned : List HaulTaskSnapshot}
    (hrun : (reassignLoop env now timeout controllers).run fleet = .ok assigned after) :
    assigned.map HaulTaskSnapshot.taskId = requeuedHauls fleet controllers ∧
      (∀ other ∉ controllers, after.snapshot? other = fleet.snapshot? other) ∧
      ∀ other ∈ controllers,
        (after.snapshot? other).map HaulTaskSnapshot.wmsStatus ≠ some .requeued := by
  induction controllers generalizing fleet assigned with
  | nil =>
    obtain ⟨rfl, rfl⟩ : [] = assigned ∧ fleet = after := by simpa [reassignLoop] using hrun
    simp [requeuedHauls]
  | cons controller controllers ih =>
    rw [List.nodup_cons] at hdistinct
    by_cases hcalled : (fleet.snapshot? controller).map HaulTaskSnapshot.wmsStatus = some .requeued
    · obtain ⟨snapshot, hget, hwms⟩ := Option.map_eq_some_iff.mp hcalled
      by_cases haccepts :
          (HaulOp.assign now timeout).Accepts env snapshot fleet.dispatcher.board
      · obtain ⟨first, middle, hid, hturn, hfirst⟩ := run_accepted h hget hwms haccepts
        rw [hfirst, run_map] at hrun
        cases hlater : (reassignLoop env now timeout controllers).run middle with
        | error e last => simp [hlater] at hrun
        | ok later last =>
          rw [hlater] at hrun
          obtain ⟨rfl, rfl⟩ : first :: later = assigned ∧ last = after := by simpa using hrun
          obtain ⟨hids, hkept, hnone⟩ := ih hturn.good hdistinct.2 hlater
          refine ⟨?_, ?_, ?_⟩
          · rw [List.map_cons, hid, hids, hturn.requeuedHauls_eq hdistinct.1,
              requeuedHauls_called hcalled]
          · intro other hother
            rw [List.mem_cons, not_or] at hother
            rw [hkept other hother.2, hturn.snapshot_of_ne hother.1]
          · intro other hother
            rcases List.mem_cons.mp hother with rfl | hbehind
            · obtain ⟨moved, hmoved, hsnapshots⟩ := hturn.snapshots
              rw [hkept other hdistinct.1, hsnapshots, Function.update_self, Option.map_some,
                hmoved]
              simp
            · exact hnone other hbehind
      · have hraises : raises (reassignLoop env now timeout (controller :: controllers)) fleet =
            true := raises_refused h hget hwms haccepts
        rw [raises_of_ok hrun] at hraises
        simp at hraises
    · rw [run_passed hcalled] at hrun
      obtain ⟨hids, hkept, hnone⟩ := ih h hdistinct.2 hrun
      refine ⟨?_, ?_, ?_⟩
      · rw [hids, requeuedHauls_passed hcalled]
      · intro other hother
        rw [List.mem_cons, not_or] at hother
        exact hkept other hother.2
      · intro other hother
        rcases List.mem_cons.mp hother with rfl | hbehind
        · rw [hkept other hdistinct.1]
          exact hcalled
        · exact hnone other hbehind

end Loop

section Service

variable (env : Environment)

def NoCandidate (fleet : FleetState) (controller : ℤ) (now : Datetime) (timeout : Floating) :
    Prop :=
  ∀ snapshot task, fleet.snapshot? controller = some snapshot →
    DispatchTask.create snapshot.taskId snapshot.pickupStation (some snapshot.dropoffStation)
      snapshot.priority = .ok task →
    FleetDispatcher.listCandidates env fleet.registry task now timeout Dict.empty = .ok []

def AssignedLater (fleet : FleetState) (controller : ℤ) : Prop :=
  ∀ later snapshot now timeout, Reachable (step env) Neutral fleet later →
    later.snapshot? controller = some snapshot → snapshot.wmsStatus = .requeued →
    snapshot.CanAssign env later.dispatcher.board now timeout →
    ((final (HeartbeatMonitor.reassignLoop env now timeout [controller]) later).snapshot?
      controller).map HaulTaskSnapshot.wmsStatus = some .assigned

/-- The call returns and has tried all requeued hauls, and those that are still requeued lack
nothing but a robot. -/
def ServesRequeued (fleet : FleetState) (haulTasks : List (ℤ × ℤ)) (now : Datetime)
    (timeout : Floating) : Prop :=
  ∃ assigned after, (HeartbeatMonitor.reassignRequeued env haulTasks now timeout).run fleet =
      .ok assigned after ∧
    (∀ controller ∈ requeuedHauls fleet (haulTasks.map Prod.snd),
      controller ∈ assigned.map HaulTaskSnapshot.taskId ∨
        NoCandidate env after controller now timeout) ∧
    ∀ controller ∈ haulTasks.map Prod.snd,
      (after.snapshot? controller).map HaulTaskSnapshot.wmsStatus = some .requeued →
        NoCandidate env after controller now timeout ∧ AssignedLater env after controller

variable {env} {start fleet : FleetState} {haulTasks : List (ℤ × ℤ)} {now : Datetime}
  {timeout : Floating}

/-- In every reachable fleet all requeued hauls are served exactly if each can go ahead and the
robots suffice; one that cannot stops the others and stays behind in a phase it cannot leave. -/
theorem serves_requeued_iff (hstart : Started env start)
    (hreach : Reachable (step env) Neutral start fleet)
    (hdistinct : (haulTasks.map Prod.snd).Nodup) :
    ServesRequeued env fleet haulTasks now timeout ↔
      Servable env fleet (haulTasks.map Prod.snd) now timeout := by
  have hgood := hstart.reachable_good hreach
  rw [← loop_returns_iff hgood hdistinct]
  constructor
  · rintro ⟨assigned, after, hrun, -⟩
    exact raises_of_ok hrun
  · intro hreturns
    obtain ⟨assigned, after, hrun⟩ := exists_of_returns hreturns
    obtain ⟨hids, -, hnone⟩ := loop_done hgood hdistinct hrun
    refine ⟨assigned, after, hrun, ?_, ?_⟩
    · intro controller hcontroller
      rw [hids]
      exact .inl hcontroller
    · intro controller hcontroller hrequeued
      exact absurd hrequeued (hnone controller hcontroller)

def requeuedOnce : List FleetOp := [newHaul 1, assignHaul 1, .haul 1 (.requeue "")]

def withoutRobots : List FleetOp :=
  requeuedOnce ++ [.registry (.markOffline "robot_01"), .registry (.markOffline "robot_02")]

theorem serves_requeued_iff_once :
    ServesRequeued still (stillFleet requeuedOnce) [(1, 1)] ⟨true, 0⟩ 30 ↔
      Servable still (stillFleet requeuedOnce) [1] ⟨true, 0⟩ 30 := by
  refine serves_requeued_iff seeded_still.toStarted ⟨requeuedOnce, ?_, rfl⟩ ?_
  · exact ⟨trivial, trivial, trivial, trivial⟩
  · simp

/-- Without a robot the call raises. When a robot is back the haul cannot be reassigned. -/
theorem requeued_haul_is_stuck :
    let reassign : FleetOp := .reassignRequeued [(1, 1)] ⟨true, 0⟩ 30
    let back := stillFleet (withoutRobots ++
      [reassign, .registry (.recordHeartbeat "robot_01" none none none true)])
    ¬ ServesRequeued still (stillFleet withoutRobots) [(1, 1)] ⟨true, 0⟩ 30 ∧
      (back.snapshot? 1).map HaulTaskSnapshot.wmsStatus = some .requeued ∧
      (FleetDispatcher.listCandidates still back.registry
        (toShelf 1) ⟨true, 0⟩ 30 Dict.empty).toOption.map List.length = some 1 ∧
      raises (reassign.call still) back = true := by
  refine ⟨?_, by decide +kernel, by decide +kernel, by decide +kernel⟩
  rintro ⟨assigned, after, hrun, -⟩
  have hraises : raises (HeartbeatMonitor.reassignRequeued still [(1, 1)] ⟨true, 0⟩ 30)
      (stillFleet withoutRobots) = true := by decide +kernel
  rw [raises_of_ok hrun] at hraises
  simp at hraises

end Service

end Fleet
