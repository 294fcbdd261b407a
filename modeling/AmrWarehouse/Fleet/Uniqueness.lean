import AmrWarehouse.Fleet.FleetRuns

/-! Which assignments put one task on two robots. -/

namespace Fleet

open Library

def Unique (robots : Dict String RobotRecord) : Prop :=
  ∀ robotId otherId robot other taskId, robots.get? robotId = some robot →
    robots.get? otherId = some other → robot.currentTaskId = some taskId →
    other.currentTaskId = some taskId → robotId = otherId

def Carried (robots : Dict String RobotRecord) (taskId : ℤ) : Prop :=
  ∃ robotId robot, robots.get? robotId = some robot ∧ robot.currentTaskId = some taskId

def Sheds (before after : Dict String RobotRecord) : Prop :=
  ∀ robotId moved taskId, after.get? robotId = some moved → moved.currentTaskId = some taskId →
    ∃ robot, before.get? robotId = some robot ∧ robot.currentTaskId = some taskId

section Robots

variable {first second : Dict String RobotRecord} {robotId : String}

lemma Sheds.refl (robots : Dict String RobotRecord) : Sheds robots robots :=
  fun _ robot _ hget htask => ⟨robot, hget, htask⟩

lemma Sheds.set {robots : Dict String RobotRecord} {robot moved : RobotRecord}
    (hget : robots.get? robotId = some robot)
    (htask : moved.currentTaskId = robot.currentTaskId ∨ moved.currentTaskId = none) :
    Sheds robots (robots.set robotId moved) := by
  intro id other taskId hother hhas
  rw [Dict.get?_set] at hother
  split at hother
  · subst id
    obtain rfl := Option.some.inj hother
    rcases htask with hsame | hnone
    · exact ⟨robot, hget, hsame.symm.trans hhas⟩
    · rw [hnone] at hhas
      simp at hhas
  · exact ⟨other, hother, hhas⟩

lemma Touches.sheds (h : Touches first second robotId) : Sheds first second := by
  rcases h with rfl | ⟨robot, moved, hget, _, htask, _, rfl⟩
  · exact Sheds.refl _
  · exact Sheds.set hget (.inl htask)

lemma Frees.sheds (h : Frees first second robotId) : Sheds first second := by
  obtain ⟨robot, hget, ⟨_, rfl⟩ | ⟨_, moved, _, _, htask, rfl⟩⟩ := h
  · exact Sheds.refl _
  · exact Sheds.set hget (.inr htask)

lemma Unique.sheds (h : Unique first) (hsheds : Sheds first second) : Unique second := by
  intro robotId otherId robot other taskId hget hget' htask htask'
  obtain ⟨old, hold, holdTask⟩ := hsheds robotId robot taskId hget htask
  obtain ⟨old', hold', holdTask'⟩ := hsheds otherId other taskId hget' htask'
  exact h robotId otherId old old' taskId hold hold' holdTask holdTask'

lemma Takes.unique_iff {taskId : ℤ} (h : Takes first second robotId taskId)
    (hc : Consistent first) : Unique second ↔ Unique first ∧ ¬ Carried first taskId := by
  have hkept : ∀ {id other otherId}, first.get? id = some other →
      other.currentTaskId = some otherId → second.get? id = some other :=
    fun hother hhas => h.kept hc hother hhas
  obtain ⟨robot, moved, hget, hidle, _, _, htask, hafter⟩ := h
  have hfree := hc.idle_free hget hidle
  have hnew : second.get? robotId = some moved := by
    rw [hafter, Dict.get?_set_self]
  constructor
  · intro hunique
    constructor
    · intro id otherId own other task hown hother hhas hhas'
      exact hunique id otherId own other task (hkept hown hhas) (hkept hother hhas') hhas hhas'
    · rintro ⟨id, other, hother, hhas⟩
      have hid := hunique id robotId other moved taskId (hkept hother hhas) hnew hhas htask
      rw [hid, hget] at hother
      rw [← Option.some.inj hother, hfree] at hhas
      simp at hhas
  · rintro ⟨hunique, hnot⟩
    have hold : ∀ {id other otherId}, second.get? id = some other →
        other.currentTaskId = some otherId →
        id = robotId ∧ otherId = taskId ∨
          first.get? id = some other ∧ otherId ≠ taskId := by
      intro id other otherId hother hhas
      by_cases hid : id = robotId
      · subst hid
        obtain rfl := Option.some.inj (hnew.symm.trans hother)
        exact .inl ⟨rfl, Option.some.inj (hhas.symm.trans htask)⟩
      · rw [hafter, Dict.get?_set_of_ne _ _ hid] at hother
        refine .inr ⟨hother, ?_⟩
        rintro rfl
        exact hnot ⟨id, other, hother, hhas⟩
    intro id otherId own other task hown hother hhas hhas'
    rcases hold hown hhas with ⟨hid, heq⟩ | ⟨hbefore, hne⟩
    · rcases hold hother hhas' with ⟨hid', _⟩ | ⟨_, hne'⟩
      · rw [hid, hid']
      · exact absurd heq hne'
    · rcases hold hother hhas' with ⟨_, heq⟩ | ⟨hbefore', _⟩
      · exact absurd heq hne
      · exact hunique id otherId own other task hbefore hbefore' hhas hhas'

end Robots

section Clean

variable (env : Environment) (now : Datetime) (timeout : Floating)

def DispatchClean (penalties : Dict String ℚ) : FleetDispatcher → List DispatchTask → Prop
  | _, [] => True
  | dispatcher, task :: tasks =>
    if (dispatcher.getAssignmentForTask task.taskId).isSome then
      DispatchClean penalties dispatcher tasks
    else
      dispatcher.board.CanAssign env task now timeout penalties →
        ¬ Carried dispatcher.registry.robots task.taskId ∧
          (env.Converts now → DispatchClean penalties
            (final (FleetDispatcher.assignTask env task now timeout penalties) dispatcher) tasks)

def AssignClean (fleet : FleetState) (taskId : ℤ) (next : Prop) : Prop :=
  ∀ snapshot, fleet.snapshot? taskId = some snapshot →
    snapshot.Gives env fleet.dispatcher.board now timeout →
    ¬ Carried fleet.registry.robots taskId ∧ (env.Converts now → next)

def ReassignClean : FleetState → List ℤ → Prop
  | _, [] => True
  | fleet, taskId :: taskIds =>
    if (fleet.snapshot? taskId).map HaulTaskSnapshot.wmsStatus ≠ some .requeued then
      ReassignClean fleet taskIds
    else
      AssignClean env now timeout fleet taskId
        (ReassignClean (step env fleet (.haul taskId (.assign now timeout))) taskIds)

variable {fleet : FleetState} {taskId : ℤ} {snapshot : HaulTaskSnapshot}

lemma reassignClean_cons (taskIds : List ℤ) (hget : fleet.snapshot? taskId = some snapshot)
    (hwms : snapshot.wmsStatus = .requeued) :
    ReassignClean env now timeout fleet (taskId :: taskIds) ↔
      (snapshot.Gives env fleet.dispatcher.board now timeout →
        ¬ Carried fleet.registry.robots taskId ∧
          (env.Converts now → ReassignClean env now timeout
            (step env fleet (.haul taskId (.assign now timeout))) taskIds)) := by
  simp [ReassignClean, AssignClean, hget, hwms]

end Clean

/-- The call gives no task to a robot that another robot still has. A dispatch ends with the first
robot that it finds where the moment of the call has no UTC datetime. -/
def Clean (env : Environment) (fleet : FleetState) : FleetOp → Prop
  | .haul taskId (.assign now timeout) => AssignClean env now timeout fleet taskId True
  | .assignTask task now timeout penalties =>
    fleet.dispatcher.board.CanAssign env task now timeout penalties →
      ¬ Carried fleet.registry.robots task.taskId
  | .dispatchTasks tasks now timeout penalties =>
    DispatchClean env now timeout penalties fleet.dispatcher
      (tasks.insertionSort FleetDispatcher.earlier)
  | .reassignRequeued haulTasks now timeout =>
    ReassignClean env now timeout fleet (haulTasks.map Prod.snd)
  | _ => True

def FleetLabel.Assigns : FleetLabel → Prop
  | bind _ => True
  | orphan _ => True
  | haul _ (.assign _ _) _ => True
  | _ => False

section Moves

variable {env : Environment} {snapshot snapshot' : HaulTaskSnapshot} {board board' : Board}

lemma HaulMove.sheds {op : HaulOp} {raised : Bool}
    (h : HaulMove env snapshot board op raised snapshot' board')
    (hop : ∀ now timeout, op ≠ .assign now timeout) : Sheds board.robots board'.robots := by
  cases h with
  | assigned _ _ _ _ => exact absurd rfl (hop _ _)
  | orphaned _ _ _ _ => exact absurd rfl (hop _ _)
  | started _ _ _ _ _ htouch => exact htouch.sheds
  | arrived _ _ _ _ _ htouch => exact htouch.sheds
  | closed _ _ _ _ _ hfree => exact hfree.sheds
  | refailed _ hfree hnone =>
    cases hrobot : snapshot.robotId with
    | none =>
      rw [hnone hrobot]
      exact Sheds.refl _
    | some robotId => exact (hfree robotId hrobot).sheds
  | _ => exact Sheds.refl _

lemma FleetMove.sheds {view view' : FleetView} {label : FleetLabel}
    (h : FleetMove env view label view') (hallowed : label.Allowed) (hnot : ¬ label.Assigns) :
    Sheds view.board.robots view'.board.robots := by
  cases h with
  | registry hget heffect _ => exact Sheds.set hget (.inl (heffect.neutral hallowed).1)
  | create _ _ => exact Sheds.refl _
  | bind _ => exact absurd trivial hnot
  | orphan _ => exact absurd trivial hnot
  | haul _ hmove =>
    apply hmove.sheds
    rintro now timeout rfl
    exact hnot trivial

lemma HaulMove.assign_cases {now : Datetime} {timeout : Floating} {raised : Bool}
    (h : HaulMove env snapshot board (.assign now timeout) raised snapshot' board') :
    ¬ snapshot.Gives env board now timeout ∧ raised = true ∧ board'.robots = board.robots ∨
      snapshot.Gives env board now timeout ∧ (raised = false ↔ env.Converts now) ∧
        ∃ robotId, Takes board.robots board'.robots robotId snapshot.taskId := by
  cases h with
  | refused htears haccepts =>
    refine .inl ⟨fun hgives => ?_, rfl, rfl⟩
    by_cases hconverts : env.Converts now
    · exact haccepts ⟨hgives, hconverts⟩
    · exact htears (.inr ⟨hgives, hconverts⟩)
  | rephased _ htears horphans _ _ _ =>
    refine .inl ⟨fun hgives => ?_, rfl, rfl⟩
    exact horphans ⟨hgives, fun hconverts => htears.not_accepts ⟨hgives, hconverts⟩⟩
  | assigned _ hgives hconverts hbinds =>
    exact .inr ⟨hgives, iff_of_true rfl hconverts, _, hbinds.robot⟩
  | orphaned _ hgives hconverts horphans =>
    exact .inr ⟨hgives, iff_of_false (by simp) hconverts, horphans.robot⟩
  | arrived _ _ _ hleg _ _ => cases hleg
  | closed _ _ hclosing _ _ _ => cases hclosing

end Moves

section Calls

variable {env : Environment} {now : Datetime} {timeout : Floating}

lemma ends_dispatchLoop_unique {dispatcher : FleetDispatcher} {penalties : Dict String ℚ}
    (hb : dispatcher.Backed env) (hc : Consistent dispatcher.registry.robots)
    (tasks : List DispatchTask) :
    let P (after : FleetDispatcher) : Prop := Unique after.registry.robots ↔
      Unique dispatcher.registry.robots ∧ DispatchClean env now timeout penalties dispatcher tasks
    Ends (FleetDispatcher.dispatchLoop env now timeout penalties tasks) dispatcher
      (fun _ => P) P := by
  induction tasks generalizing dispatcher with
  | nil =>
    have hnil : Unique dispatcher.registry.robots ↔ Unique dispatcher.registry.robots ∧
        DispatchClean env now timeout penalties dispatcher [] := by
      simp [DispatchClean]
    exact hnil
  | cons task tasks ih =>
    intro P
    simp only [FleetDispatcher.dispatchLoop, ends_bind, ends_get]
    split_ifs with hheld
    · apply (ih hb hc).mono
      · intro _ after hafter
        simpa [P, DispatchClean, hheld] using hafter
      · intro after hafter
        simpa [P, DispatchClean, hheld] using hafter
    · by_cases hcan : dispatcher.board.CanAssign env task now timeout penalties
      · by_cases hconverts : env.Converts now
        · obtain ⟨assignment, middle, hrun, hbinds, hmiddle⟩ :=
            (FleetDispatcher.ends_assignTask hb hc hcan hconverts).run_ok
          have hlater : ∀ after : FleetDispatcher, (Unique after.registry.robots ↔
              Unique middle.registry.robots ∧
                DispatchClean env now timeout penalties middle tasks) → P after := by
            intro after hafter
            have hunique : Unique middle.registry.robots ↔
                Unique dispatcher.registry.robots ∧
                  ¬ Carried dispatcher.registry.robots task.taskId :=
              hbinds.robot.unique_iff hc
            simp only [P, DispatchClean, hheld, hcan, hconverts, final_of_ok hrun, hafter, hunique]
            simp [and_assoc]
          rw [ends_bind]
          apply ends_attempt_of_ok
          apply ends_of_ok hrun
          simp only [ends_bind, ends_pure]
          exact (ih hmiddle (hbinds.consistent hc)).mono (fun _ => hlater) hlater
        · obtain ⟨e, after, hrun, -, horphans, -⟩ :=
            FleetDispatcher.run_assignTask_orphans hb hc hcan hconverts
          obtain ⟨robotId, htakes⟩ := horphans.robot
          have hafter : P after := by
            have hunique : Unique after.registry.robots ↔ Unique dispatcher.registry.robots ∧
                ¬ Carried dispatcher.registry.robots task.taskId := htakes.unique_iff hc
            simp [P, DispatchClean, hheld, hcan, hconverts, hunique]
          rw [ends_bind]
          apply ends_attempt_of_error hrun
          dsimp only
          split_ifs
          · exact hafter
          · exact hafter
      · obtain ⟨e, he⟩ := FleetDispatcher.run_assignTask_refused hcan
        have hsame : P dispatcher := by
          simp [P, DispatchClean, hheld, hcan]
        rw [ends_bind]
        apply ends_attempt_of_error he
        dsimp only
        split_ifs
        · exact hsame
        · exact hsame

variable {fleet : FleetState}

lemma step_haul_eq (taskId : ℤ) (op : HaulOp) :
    step env fleet (.haul taskId op) = final (onHaul taskId (op.call env)) fleet ∧
      raises ((FleetOp.haul taskId op).call env) fleet =
        raises (onHaul taskId (op.call env)) fleet := by
  simp only [step, FleetOp.call, final, raises, EStateM.run_bind]
  cases (onHaul taskId (op.call env)).run fleet <;> exact ⟨rfl, rfl⟩

lemma unique_assign_iff (hgood : Good env fleet) {taskId : ℤ} {snapshot : HaulTaskSnapshot}
    (hget : fleet.snapshot? taskId = some snapshot) (now : Datetime) (timeout : Floating) :
    let after := step env fleet (.haul taskId (.assign now timeout))
    let gives := snapshot.Gives env fleet.dispatcher.board now timeout
    (raises (onHaul taskId ((HaulOp.assign now timeout).call env)) fleet = false ↔
        gives ∧ env.Converts now) ∧
      (Unique after.registry.robots ↔
        Unique fleet.registry.robots ∧ (gives → ¬ Carried fleet.registry.robots taskId)) := by
  obtain ⟨snapshot', hmove, _⟩ := step_haul hgood hget (.assign now timeout)
  rw [(step_haul_eq taskId (.assign now timeout)).2] at hmove
  rcases hmove.assign_cases with ⟨hnot, hraised, hrobots⟩ | ⟨hgives, hraised, robotId, htakes⟩
  · have hsame : (step env fleet (.haul taskId (.assign now timeout))).registry.robots =
        fleet.registry.robots := hrobots
    simp [hraised, hnot, hsame]
  · rw [hgood.sound.owned hget] at htakes
    have hunique := htakes.unique_iff hgood.sound.consistent
    simp only [hraised, hgives, true_and, true_implies]
    exact hunique

lemma ends_reassignLoop_unique (hgood : Good env fleet) (taskIds : List ℤ) :
    let P (after : FleetState) : Prop := Unique after.registry.robots ↔
      Unique fleet.registry.robots ∧ ReassignClean env now timeout fleet taskIds
    Ends (HeartbeatMonitor.reassignLoop env now timeout taskIds) fleet (fun _ => P) P := by
  induction taskIds generalizing fleet with
  | nil =>
    have hnil : Unique fleet.registry.robots ↔ Unique fleet.registry.robots ∧
        ReassignClean env now timeout fleet [] := by
      simp [ReassignClean]
    exact hnil
  | cons taskId taskIds ih =>
    intro P
    simp only [HeartbeatMonitor.reassignLoop, ends_bind, ends_get]
    split_ifs with hwms
    · apply (ih hgood).mono
      · intro _ after hafter
        simpa only [P, ReassignClean, hwms, if_true, ne_eq, not_false_eq_true] using hafter
      · intro after hafter
        simpa only [P, ReassignClean, hwms, if_true, ne_eq, not_false_eq_true] using hafter
    · rw [not_not] at hwms
      obtain ⟨snapshot, hget, hwms⟩ := Option.map_eq_some_iff.mp hwms
      obtain ⟨hraises, hunique⟩ := unique_assign_iff hgood hget now timeout
      have hgoes : Goes env _ fleet (step env fleet (.haul taskId (.assign now timeout))) :=
        step_goes hgood trivial
      have hclean := reassignClean_cons env now timeout taskIds hget hwms
      rw [(step_haul_eq taskId (.assign now timeout)).1] at hunique hgoes hclean
      simp only [HaulOp.call] at hraises hunique hgoes hclean
      rw [ends_bind]
      apply ends_of_final
      · intro hreturns assigned
        have hlater : ∀ after : FleetState, (Unique after.registry.robots ↔
            Unique (final (onHaul taskId (HaulTaskController.assign env now timeout))
              fleet).registry.robots ∧
              ReassignClean env now timeout
                (final (onHaul taskId (HaulTaskController.assign env now timeout)) fleet)
                taskIds) →
            P after := by
          intro after hafter
          obtain ⟨hgives, hconverts⟩ := hraises.mp hreturns
          simp only [P, hclean, hafter, hunique, hgives, hconverts, true_implies, and_assoc]
        simp only [ends_bind, ends_pure]
        exact (ih hgoes.good).mono (fun _ => hlater) hlater
      · intro hraised
        have hnot : snapshot.Gives env fleet.dispatcher.board now timeout →
            ¬ env.Converts now := by
          intro hgives hconverts
          rw [hraises.mpr ⟨hgives, hconverts⟩] at hraised
          simp at hraised
        have hstops : ReassignClean env now timeout fleet (taskId :: taskIds) ↔
            (snapshot.Gives env fleet.dispatcher.board now timeout →
              ¬ Carried fleet.registry.robots taskId) := by
          rw [hclean]
          refine forall_congr' fun hgives => ?_
          simp [hnot hgives]
        simpa only [P, hstops] using hunique

end Calls

def FleetOp.Idle : FleetOp → Prop
  | haul _ (.assign _ _) => False
  | assignTask _ _ _ _ => False
  | dispatchTasks _ _ _ _ => False
  | reassignRequeued _ _ _ => False
  | _ => True

section Runs

variable {env : Environment} {start fleet : FleetState}

lemma unique_of_idle (hgood : Good env fleet) (h : Unique fleet.registry.robots) {op : FleetOp}
    (hn : op.Neutral) (hidle : op.Idle) : Unique (step env fleet op).registry.robots := by
  apply step_invariant (fun view => Unique view.board.robots) (fun _ label => ¬ label.Assigns)
    (fun _ _ _ _ hv hm hl hg => hv.sheds (hm.sheds hl hg)) hgood h hn
  · rintro taskId haulOp raised rfl
    cases haulOp with
    | assign _ _ => exact hidle.elim
    | _ => exact fun h => h
  · intro hother view label hlabel hassigns
    cases op with
    | registry op =>
      obtain ⟨rfl, _⟩ := hlabel
      exact hassigns
    | createHaul _ _ _ _ _ =>
      obtain rfl := hlabel
      exact hassigns
    | haul taskId haulOp => exact hother taskId haulOp rfl
    | setAssignmentStatus _ _ _ => exact hlabel
    | sweep _ _ _ =>
      obtain ⟨_, _, _, rfl⟩ | ⟨_, rfl⟩ := hlabel
      · exact hassigns
      · exact hassigns
    | assignTask _ _ _ _ => exact hidle
    | dispatchTasks _ _ _ _ => exact hidle
    | reassignRequeued _ _ _ => exact hidle

lemma unique_step_iff (hgood : Good env fleet) (h : Unique fleet.registry.robots) {op : FleetOp}
    (hn : op.Neutral) : Unique (step env fleet op).registry.robots ↔ Clean env fleet op := by
  cases op with
  | haul taskId haulOp =>
    cases haulOp with
    | assign now timeout =>
      cases hget : fleet.snapshot? taskId with
      | none =>
        rw [step_haul_none hget]
        simp [Clean, AssignClean, hget, h]
      | some snapshot =>
        have hunique := (unique_assign_iff hgood hget now timeout).2
        simp [hunique, h, Clean, AssignClean, hget]
    | _ => exact iff_of_true (unique_of_idle hgood h hn trivial) trivial
  | assignTask task now timeout penalties =>
    have hends : Ends ((FleetOp.assignTask task now timeout penalties).call env) fleet
        (fun _ after => Unique after.registry.robots ↔
          Clean env fleet (.assignTask task now timeout penalties))
        (fun after => Unique after.registry.robots ↔
          Clean env fleet (.assignTask task now timeout penalties)) := by
      simp only [FleetOp.call, onDispatcher, ends_bind, ends_focus, ends_pure]
      by_cases hcan : fleet.dispatcher.board.CanAssign env task now timeout penalties
      · have hclean : ∀ {after robotId},
            Takes fleet.registry.robots after robotId task.taskId →
            (Unique after ↔ Clean env fleet (.assignTask task now timeout penalties)) := by
          intro after robotId htakes
          have hunique := htakes.unique_iff hgood.sound.consistent
          simp only [Clean, hcan, true_implies]
          exact hunique.trans (and_iff_right h)
        by_cases hconverts : env.Converts now
        · apply (FleetDispatcher.ends_assignTask hgood.backed hgood.sound.consistent hcan
            hconverts).mono
          · exact fun _ _ hafter => hclean hafter.1.robot
          · exact fun _ hfalse => hfalse.elim
        · obtain ⟨e, after, hrun, -, horphans, -⟩ := FleetDispatcher.run_assignTask_orphans
            hgood.backed hgood.sound.consistent hcan hconverts
          obtain ⟨robotId, htakes⟩ := horphans.robot
          exact ends_of_error hrun (hclean htakes)
      · obtain ⟨e, he⟩ := FleetDispatcher.run_assignTask_refused hcan
        exact ends_of_error he (iff_of_true h (fun hcan' => absurd hcan' hcan))
    exact hends.final
  | dispatchTasks tasks now timeout penalties =>
    have hends : Ends ((FleetOp.dispatchTasks tasks now timeout penalties).call env) fleet
        (fun _ after => Unique after.registry.robots ↔
          Clean env fleet (.dispatchTasks tasks now timeout penalties))
        (fun after => Unique after.registry.robots ↔
          Clean env fleet (.dispatchTasks tasks now timeout penalties)) := by
      simp only [FleetOp.call, onDispatcher, FleetDispatcher.dispatchTasks, ends_bind, ends_focus,
        ends_pure]
      apply (ends_dispatchLoop_unique hgood.backed hgood.sound.consistent _).mono
      · exact fun _ _ hafter => hafter.trans (and_iff_right h)
      · exact fun _ hafter => hafter.trans (and_iff_right h)
    exact hends.final
  | reassignRequeued haulTasks now timeout =>
    have hends : Ends ((FleetOp.reassignRequeued haulTasks now timeout).call env) fleet
        (fun _ after => Unique after.registry.robots ↔
          Clean env fleet (.reassignRequeued haulTasks now timeout))
        (fun after => Unique after.registry.robots ↔
          Clean env fleet (.reassignRequeued haulTasks now timeout)) := by
      simp only [FleetOp.call, HeartbeatMonitor.reassignRequeued, ends_bind, ends_pure]
      apply (ends_reassignLoop_unique hgood _).mono
      · exact fun _ _ hafter => hafter.trans (and_iff_right h)
      · exact fun _ hafter => hafter.trans (and_iff_right h)
    exact hends.final
  | _ => exact iff_of_true (unique_of_idle hgood h hn trivial) trivial

/-- Along a run from a seeded fleet no two robots ever have the same task exactly if no call gives
a robot a task that another one still has. -/
theorem unique_iff_clean (hstart : Seeded env start) {ops : List FleetOp}
    (hops : ∀ op ∈ ops, op.Neutral) :
    Always (step env) (fun fleet => Unique fleet.registry.robots) start ops ↔
      Guarded (step env) (Clean env) start ops := by
  apply always_iff_guarded (Good env)
  · exact fun fleet op hgood hn => (step_goes hgood hn).good
  · exact fun fleet op hgood hn h => unique_step_iff hgood h hn
  · exact hstart.good
  · intro robotId otherId robot other taskId hget _ htask _
    rw [(hstart.idle hget).2] at htask
    simp at htask
  · exact guarded_of_forall_mem (fun op hop _ => hops op hop) start

theorem unique_iff_clean_assigned :
    Always (step still) (fun fleet => Unique fleet.registry.robots) (opened still ⟨0, none⟩)
        [newHaul 1, assignHaul 1] ↔
      Guarded (step still) (Clean still) (opened still ⟨0, none⟩) [newHaul 1, assignHaul 1] :=
  unique_iff_clean seeded_still (by simp [newHaul, assignHaul, FleetOp.Neutral])

def reassignedInError : List FleetOp :=
  [newHaul 1, assignHaul 1, .registry (.markError "robot_01"), .haul 1 (.requeue "robot fault"),
    assignHaul 1]

theorem requeue_in_error_shares_task :
    ¬ Unique (stillFleet reassignedInError).registry.robots := by
  intro hunique
  have htasks : ["robot_01", "robot_02"].map (fun robotId =>
      ((stillFleet reassignedInError).registry.robots.get? robotId).bind
        RobotRecord.currentTaskId) = [some 1, some 1] := by
    decide +kernel
  simp only [List.map_cons, List.map_nil, List.cons.injEq, and_true,
    Option.bind_eq_some_iff] at htasks
  obtain ⟨⟨robot, hget, htask⟩, other, hget', htask'⟩ := htasks
  have heq := hunique "robot_01" "robot_02" robot other 1 hget hget' htask htask'
  revert heq
  decide

end Runs

end Fleet
