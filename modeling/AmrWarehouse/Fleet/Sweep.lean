import AmrWarehouse.Fleet.FleetRuns

/-! When the heartbeat sweep does what it is for: it returns, and it touches only the robots that
have timed out and their hauls. -/

namespace Fleet

open Library

section Turns

variable (env : Environment) (now : Datetime) (timeoutSec : Floating)

def TimedOut (robot : RobotRecord) : Prop :=
  robot.state ≠ .offline ∧ isHeartbeatValid env robot now timeoutSec = .ok false

def Withdraws (view : FleetView) (robot : RobotRecord) (taskId : ℤ)
    (snapshot : HaulTaskSnapshot) : Prop :=
  TimedOut env now timeoutSec robot ∧ robot.currentTaskId = some taskId ∧
    view.snapshot? taskId = some snapshot ∧ snapshot.pickupCompleted = false

def Requeueable (snapshot : HaulTaskSnapshot) : Prop :=
  snapshot.executionPhase ∈ [.idle, .navigatingToPickup] ∧
    snapshot.wmsStatus ∈ [.assigned, .inProgress]

/-- All heartbeats can be read, and the hauls to withdraw can be requeued, one for each robot. -/
structure Sweepable (view : FleetView) (robots : List RobotRecord) : Prop where
  readable : ∀ robot ∈ robots, robot.state ≠ .offline →
    ∃ valid, isHeartbeatValid env robot now timeoutSec = .ok valid
  requeueable : ∀ robot ∈ robots, ∀ taskId snapshot,
    Withdraws env now timeoutSec view robot taskId snapshot → Requeueable snapshot
  distinct : robots.Pairwise fun robot other => ∀ taskId snapshot,
    Withdraws env now timeoutSec view robot taskId snapshot →
    ¬ Withdraws env now timeoutSec view other taskId snapshot

structure Swept (robots : List RobotRecord) (before after : FleetView) : Prop where
  timedOut : ∀ robot ∈ robots, TimedOut env now timeoutSec robot →
    ∃ moved, after.board.robots.get? robot.robotId = some moved ∧ moved.state = .offline
  offline : ∀ robotId robot, before.board.robots.get? robotId = some robot →
    robot.state = .offline → after.board.robots.get? robotId = some robot
  untouched : ∀ robotId,
    (∀ robot ∈ robots, TimedOut env now timeoutSec robot → robot.robotId ≠ robotId) →
    (∀ robot ∈ robots, ∀ taskId snapshot,
      Withdraws env now timeoutSec before robot taskId snapshot →
      snapshot.robotId ≠ some robotId) →
    after.board.robots.get? robotId = before.board.robots.get? robotId
  requeued : ∀ robot ∈ robots, ∀ taskId snapshot,
    Withdraws env now timeoutSec before robot taskId snapshot →
    ∃ snapshot', after.snapshot? taskId = some snapshot' ∧ snapshot'.wmsStatus = .requeued
  kept : ∀ taskId, after.snapshot? taskId = before.snapshot? taskId ∨
    ∃ robot ∈ robots, ∃ snapshot, Withdraws env now timeoutSec before robot taskId snapshot

/-- Every haul is mapped to its own controller, and no task to another one's. -/
structure Maps (view : FleetView) (haulTasks : List (ℤ × ℤ)) : Prop where
  own : ∀ taskId controller, haulTasks.lookup taskId = some controller → controller = taskId
  all : ∀ taskId, (view.snapshot? taskId).isSome → haulTasks.lookup taskId = some taskId

end Turns

def TakenOffline (before after : Dict String RobotRecord) (robotId : String) : Prop :=
  ∃ robot, before.get? robotId = some robot ∧
    (robot.state = .offline ∧ after = before ∨
      robot.state ≠ .offline ∧ ∃ moved : RobotRecord, moved.state = .offline ∧
        after = before.set robotId moved)

section Robots

variable {before after : Dict String RobotRecord} {robotId : String}

lemma TakenOffline.offline (h : TakenOffline before after robotId) :
    ∃ moved, after.get? robotId = some moved ∧ moved.state = .offline := by
  obtain ⟨robot, hget, ⟨hstate, rfl⟩ | ⟨_, moved, hstate, rfl⟩⟩ := h
  · exact ⟨robot, hget, hstate⟩
  · exact ⟨moved, Dict.get?_set_self _ _ _, hstate⟩

lemma TakenOffline.get?_of_ne (h : TakenOffline before after robotId) {id : String}
    (hne : id ≠ robotId) : after.get? id = before.get? id := by
  obtain ⟨_, _, ⟨_, rfl⟩ | ⟨_, moved, _, rfl⟩⟩ := h
  · rfl
  · exact Dict.get?_set_of_ne _ _ hne

lemma TakenOffline.keeps_offline (h : TakenOffline before after robotId) {id : String}
    {robot : RobotRecord} (hget : before.get? id = some robot) (hstate : robot.state = .offline) :
    after.get? id = some robot := by
  by_cases hne : id = robotId
  · subst hne
    obtain ⟨own, hown, ⟨_, rfl⟩ | ⟨hnot, _⟩⟩ := h
    · exact hget
    · obtain rfl := Option.some.inj (hown.symm.trans hget)
      exact absurd hstate hnot
  · rw [h.get?_of_ne hne, hget]

lemma TakenOffline.known (h : TakenOffline before after robotId) {id : String}
    (hid : (before.get? id).isSome) : (after.get? id).isSome := by
  obtain ⟨_, _, ⟨_, rfl⟩ | ⟨_, moved, _, rfl⟩⟩ := h
  · exact hid
  · exact Dict.isSome_get?_set _ _ _ _ hid

lemma Frees.keeps_offline (h : Frees before after robotId) {id : String} {robot : RobotRecord}
    (hget : before.get? id = some robot) (hstate : robot.state = .offline) :
    after.get? id = some robot := by
  by_cases hne : id = robotId
  · subst hne
    obtain ⟨own, hown, ⟨_, rfl⟩ | ⟨hactive, _⟩⟩ := h
    · exact hget
    · obtain rfl := Option.some.inj (hown.symm.trans hget)
      simp [hstate, activeTaskStates] at hactive
  · rw [h.get?_of_ne hne, hget]

end Robots

structure Requeued (snapshot : HaulTaskSnapshot) : Prop where
  wmsStatus_eq : snapshot.wmsStatus = .requeued
  robotId_eq : snapshot.robotId = none
  pickupCompleted_eq : snapshot.pickupCompleted = false

lemma Requeued.not_requeueable {snapshot : HaulTaskSnapshot} (h : Requeued snapshot) :
    ¬ Requeueable snapshot := by
  simp [Requeueable, h.wmsStatus_eq]

lemma HaulMove.requeue_cases {env : Environment} {snapshot snapshot' : HaulTaskSnapshot}
    {board board' : Board} {reason : String} {raised : Bool}
    (h : HaulMove env snapshot board (.requeue reason) raised snapshot' board')
    (hpickup : snapshot.pickupCompleted = false) :
    raised = true ∧ ¬ Requeueable snapshot ∨
      raised = false ∧ Requeueable snapshot ∧ Requeued snapshot' ∧
        ∃ robotId, snapshot.robotId = some robotId ∧ Frees board.robots board'.robots robotId := by
  cases h with
  | refused _ haccepts =>
    exact .inl ⟨rfl, fun hok => haccepts ⟨hpickup, hok.1, hok.2⟩⟩
  | rephased _ _ _ hopen _ _ =>
    refine .inl ⟨rfl, fun hok => ?_⟩
    have hworking := hok.2
    cases hwms : snapshot.wmsStatus <;> simp_all
  | arrived _ _ _ hleg _ _ => cases hleg
  | closed _ hworking hclosing hrobot _ hfree =>
    cases hclosing with
    | requeue _ _ hphase =>
      exact .inr ⟨rfl, ⟨hphase, hworking⟩, ⟨rfl, by simp, hpickup⟩, _, hrobot, hfree⟩

section Loop

variable {env : Environment} {now : Datetime} {timeoutSec : Floating} {haulTasks : List (ℤ × ℤ)}

structure Turned (env : Environment) (now : Datetime) (timeoutSec : Floating) (robot : RobotRecord)
    (before after : FleetView) : Prop where
  timedOut : ∃ moved, after.board.robots.get? robot.robotId = some moved ∧ moved.state = .offline
  offline : ∀ robotId own, before.board.robots.get? robotId = some own → own.state = .offline →
    after.board.robots.get? robotId = some own
  untouched : ∀ robotId, robot.robotId ≠ robotId → (∀ taskId snapshot,
      Withdraws env now timeoutSec before robot taskId snapshot →
      snapshot.robotId ≠ some robotId) →
    after.board.robots.get? robotId = before.board.robots.get? robotId
  known : ∀ robotId, (before.board.robots.get? robotId).isSome →
    (after.board.robots.get? robotId).isSome
  requeued : ∀ taskId snapshot, Withdraws env now timeoutSec before robot taskId snapshot →
    Requeueable snapshot ∧ ∃ snapshot', after.snapshot? taskId = some snapshot' ∧
      Requeued snapshot'
  kept : ∀ taskId, (∀ snapshot, ¬ Withdraws env now timeoutSec before robot taskId snapshot) →
    after.snapshot? taskId = before.snapshot? taskId

namespace Turned

variable {robot : RobotRecord} {before middle after : FleetView}

lemma of_quiet (htaken : TakenOffline before.board.robots after.board.robots robot.robotId)
    (hquiet : ∀ taskId snapshot, ¬ Withdraws env now timeoutSec before robot taskId snapshot)
    (hsame : after.snapshot? = before.snapshot?) :
    Turned env now timeoutSec robot before after where
  timedOut := htaken.offline
  offline _ _ := htaken.keeps_offline
  untouched _ hne _ := htaken.get?_of_ne hne.symm
  known _ := htaken.known
  requeued taskId snapshot h := absurd h (hquiet taskId snapshot)
  kept taskId _ := congrFun hsame taskId

lemma of_withdrawn {taskId : ℤ} {snapshot snapshot' : HaulTaskSnapshot} {robotId : String}
    (hwithdraws : Withdraws env now timeoutSec before robot taskId snapshot)
    (hok : Requeueable snapshot) (hrequeued : Requeued snapshot')
    (hrobot : snapshot.robotId = some robotId)
    (hfree : Frees before.board.robots middle.board.robots robotId)
    (htaken : TakenOffline middle.board.robots after.board.robots robot.robotId)
    (hmiddle : middle.snapshot? = Function.update before.snapshot? taskId (some snapshot'))
    (hsame : after.snapshot? = middle.snapshot?) :
    Turned env now timeoutSec robot before after where
  timedOut := htaken.offline
  offline _ _ hget hstate := htaken.keeps_offline (hfree.keeps_offline hget hstate) hstate
  untouched id hne hother := by
    have hid : id ≠ robotId := by
      rintro rfl
      exact hother taskId snapshot hwithdraws hrobot
    rw [htaken.get?_of_ne hne.symm, hfree.get?_of_ne hid]
  known _ hknown := htaken.known (hfree.calm.known hknown)
  requeued other s h := by
    obtain rfl : taskId = other := Option.some.inj (hwithdraws.2.1.symm.trans h.2.1)
    obtain rfl : snapshot = s := Option.some.inj (hwithdraws.2.2.1.symm.trans h.2.2.1)
    refine ⟨hok, snapshot', ?_, hrequeued⟩
    rw [hsame, hmiddle, Function.update_self]
  kept other hnot := by
    have hne : other ≠ taskId := by
      rintro rfl
      exact hnot snapshot hwithdraws
    rw [hsame, hmiddle, Function.update_of_ne hne]

lemma withdraws_iff (h : Turned env now timeoutSec robot before after) {taskId : ℤ}
    (hnot : ∀ snapshot, ¬ Withdraws env now timeoutSec before robot taskId snapshot)
    {other : RobotRecord} {snapshot : HaulTaskSnapshot} :
    Withdraws env now timeoutSec after other taskId snapshot ↔
      Withdraws env now timeoutSec before other taskId snapshot := by
  rw [Withdraws, Withdraws, h.kept taskId hnot]

lemma spent (h : Turned env now timeoutSec robot before after) {taskId : ℤ}
    {snapshot : HaulTaskSnapshot}
    (hwithdraws : Withdraws env now timeoutSec before robot taskId snapshot)
    {other : RobotRecord} (htimed : TimedOut env now timeoutSec other)
    (htask : other.currentTaskId = some taskId) :
    ∃ snapshot', Withdraws env now timeoutSec after other taskId snapshot' ∧
      Requeued snapshot' := by
  obtain ⟨_, snapshot', hget, hrequeued⟩ := h.requeued taskId snapshot hwithdraws
  exact ⟨snapshot', ⟨htimed, htask, hget, hrequeued.pickupCompleted_eq⟩, hrequeued⟩

lemma maps (h : Turned env now timeoutSec robot before after) (hmaps : Maps before haulTasks) :
    Maps after haulTasks := by
  refine ⟨hmaps.own, ?_⟩
  intro taskId hsome
  apply hmaps.all
  by_cases hown : ∃ own, Withdraws env now timeoutSec before robot taskId own
  · obtain ⟨own, hown⟩ := hown
    simp [hown.2.2.1]
  · push Not at hown
    rwa [← h.kept taskId hown]

lemma sweepable_iff (h : Turned env now timeoutSec robot before after)
    (htimed : TimedOut env now timeoutSec robot) {robots : List RobotRecord} :
    Sweepable env now timeoutSec before (robot :: robots) ↔
      Sweepable env now timeoutSec after robots := by
  constructor
  · intro hs
    have hdistinct := List.pairwise_cons.mp hs.distinct
    have hback : ∀ other ∈ robots, ∀ taskId snapshot,
        Withdraws env now timeoutSec after other taskId snapshot →
        Withdraws env now timeoutSec before other taskId snapshot := by
      intro other hmem taskId snapshot hother
      apply (h.withdraws_iff ?_).mp hother
      intro own hown
      exact hdistinct.1 other hmem taskId own hown ⟨hother.1, hother.2.1, hown.2.2⟩
    refine ⟨fun other hmem => hs.readable other (List.mem_cons_of_mem robot hmem), ?_, ?_⟩
    · intro other hmem taskId snapshot hother
      exact hs.requeueable other (List.mem_cons_of_mem robot hmem) taskId snapshot
        (hback other hmem taskId snapshot hother)
    · apply hdistinct.2.imp_of_mem
      intro one other hone hmem hnot taskId snapshot hwone hwother
      exact hnot taskId snapshot (hback one hone taskId snapshot hwone)
        (hback other hmem taskId snapshot hwother)
  · intro hs
    have hnot : ∀ other ∈ robots, ∀ taskId, TimedOut env now timeoutSec other →
        other.currentTaskId = some taskId →
        ∀ snapshot, ¬ Withdraws env now timeoutSec before robot taskId snapshot := by
      intro other hmem taskId hother htask snapshot hwithdraws
      obtain ⟨snapshot', hagain, hrequeued⟩ := h.spent hwithdraws hother htask
      exact hrequeued.not_requeueable (hs.requeueable other hmem taskId snapshot' hagain)
    have hforth : ∀ other ∈ robots, ∀ taskId snapshot,
        Withdraws env now timeoutSec before other taskId snapshot →
        Withdraws env now timeoutSec after other taskId snapshot := by
      intro other hmem taskId snapshot hother
      exact (h.withdraws_iff (hnot other hmem taskId hother.1 hother.2.1)).mpr hother
    refine ⟨?_, ?_, ?_⟩
    · intro other hmem hstate
      rcases List.mem_cons.mp hmem with rfl | hmem
      · exact ⟨false, htimed.2⟩
      · exact hs.readable other hmem hstate
    · intro other hmem taskId snapshot hother
      rcases List.mem_cons.mp hmem with rfl | hmem
      · exact (h.requeued taskId snapshot hother).1
      · exact hs.requeueable other hmem taskId snapshot (hforth other hmem taskId snapshot hother)
    · refine List.pairwise_cons.mpr ⟨?_, ?_⟩
      · intro other hmem taskId snapshot hown hother
        exact hnot other hmem taskId hother.1 hother.2.1 snapshot hown
      · apply hs.distinct.imp_of_mem
        intro one other hone hmem hne taskId snapshot hwone hwother
        exact hne taskId snapshot (hforth one hone taskId snapshot hwone)
          (hforth other hmem taskId snapshot hwother)

lemma swept (h : Turned env now timeoutSec robot before middle)
    (htimed : TimedOut env now timeoutSec robot) {robots : List RobotRecord}
    (hs : Swept env now timeoutSec robots middle after) :
    Swept env now timeoutSec (robot :: robots) before after where
  timedOut other hmem hother := by
    rcases List.mem_cons.mp hmem with rfl | hmem
    · obtain ⟨moved, hget, hstate⟩ := h.timedOut
      exact ⟨moved, hs.offline _ _ hget hstate, hstate⟩
    · exact hs.timedOut other hmem hother
  offline robotId own hget hstate := hs.offline _ _ (h.offline robotId own hget hstate) hstate
  untouched robotId hrobots hhauls := by
    rw [hs.untouched robotId, h.untouched robotId]
    · exact hrobots robot List.mem_cons_self htimed
    · exact hhauls robot List.mem_cons_self
    · exact fun other hmem => hrobots other (List.mem_cons_of_mem robot hmem)
    · intro other hmem taskId snapshot hother
      by_cases hown : ∃ own, Withdraws env now timeoutSec before robot taskId own
      · obtain ⟨own, hown⟩ := hown
        obtain ⟨_, snapshot', hget, hrequeued⟩ := h.requeued taskId own hown
        obtain rfl := Option.some.inj (hget.symm.trans hother.2.2.1)
        simp [hrequeued.robotId_eq]
      · push Not at hown
        exact hhauls other (List.mem_cons_of_mem robot hmem) taskId snapshot
          ((h.withdraws_iff hown).mp hother)
  requeued other hmem taskId snapshot hother := by
    by_cases hown : ∃ own, Withdraws env now timeoutSec before robot taskId own
    · obtain ⟨own, hown⟩ := hown
      obtain ⟨_, snapshot', hget, hrequeued⟩ := h.requeued taskId own hown
      rcases hs.kept taskId with hsame | ⟨later, hlater, s, hwithdraws⟩
      · exact ⟨snapshot', hsame.trans hget, hrequeued.wmsStatus_eq⟩
      · exact hs.requeued later hlater taskId s hwithdraws
    · push Not at hown
      rcases List.mem_cons.mp hmem with rfl | hmem
      · exact absurd hother (hown snapshot)
      · exact hs.requeued other hmem taskId snapshot ((h.withdraws_iff hown).mpr hother)
  kept taskId := by
    by_cases hown : ∃ own, Withdraws env now timeoutSec before robot taskId own
    · obtain ⟨own, hown⟩ := hown
      exact .inr ⟨robot, List.mem_cons_self, own, hown⟩
    · push Not at hown
      rcases hs.kept taskId with hsame | ⟨other, hmem, snapshot, hother⟩
      · exact .inl (hsame.trans (h.kept taskId hown))
      · exact .inr ⟨other, List.mem_cons_of_mem robot hmem, snapshot,
          (h.withdraws_iff hown).mp hother⟩

end Turned

section Quiet

variable {robot : RobotRecord} {robots : List RobotRecord} {before after : FleetView}

lemma sweepable_cons (hnot : ¬ TimedOut env now timeoutSec robot)
    (hread : robot.state ≠ .offline →
      ∃ valid, isHeartbeatValid env robot now timeoutSec = .ok valid) :
    Sweepable env now timeoutSec before (robot :: robots) ↔
      Sweepable env now timeoutSec before robots := by
  constructor
  · intro h
    exact ⟨fun other hmem => h.readable other (List.mem_cons_of_mem robot hmem),
      fun other hmem => h.requeueable other (List.mem_cons_of_mem robot hmem),
      (List.pairwise_cons.mp h.distinct).2⟩
  · intro h
    refine ⟨?_, ?_, List.pairwise_cons.mpr ⟨?_, h.distinct⟩⟩
    · intro other hmem
      rcases List.mem_cons.mp hmem with rfl | hmem
      · exact hread
      · exact h.readable other hmem
    · intro other hmem taskId snapshot hother
      rcases List.mem_cons.mp hmem with rfl | hmem
      · exact absurd hother.1 hnot
      · exact h.requeueable other hmem taskId snapshot hother
    · exact fun _ _ _ _ hown => absurd hown.1 hnot

lemma Swept.cons (hnot : ¬ TimedOut env now timeoutSec robot)
    (h : Swept env now timeoutSec robots before after) :
    Swept env now timeoutSec (robot :: robots) before after where
  timedOut other hmem hother := by
    rcases List.mem_cons.mp hmem with rfl | hmem
    · exact absurd hother hnot
    · exact h.timedOut other hmem hother
  offline := h.offline
  untouched robotId hrobots hhauls :=
    h.untouched robotId (fun other hmem => hrobots other (List.mem_cons_of_mem robot hmem))
      (fun other hmem => hhauls other (List.mem_cons_of_mem robot hmem))
  requeued other hmem taskId snapshot hother := by
    rcases List.mem_cons.mp hmem with rfl | hmem
    · exact absurd hother.1 hnot
    · exact h.requeued other hmem taskId snapshot hother
  kept taskId := by
    rcases h.kept taskId with hsame | ⟨other, hmem, hother⟩
    · exact .inl hsame
    · exact .inr ⟨other, List.mem_cons_of_mem robot hmem, hother⟩

end Quiet

variable {fleet : FleetState} {robot : RobotRecord}

def Offlined (env : Environment) (robotId : String) (before after : FleetState) : Prop :=
  Good env after ∧ after.snapshot? = before.snapshot? ∧
    TakenOffline before.registry.robots after.registry.robots robotId

lemma ends_markOffline (h : Good env fleet) {robotId : String}
    (hknown : (fleet.registry.robots.get? robotId).isSome) :
    Ends (onRegistry (RobotRegistry.markOffline env robotId)) fleet
      (fun _ => Offlined env robotId fleet) (fun _ => False) := by
  obtain ⟨own, hget⟩ := Option.isSome_iff_exists.mp hknown
  have htaken : Ends (onRegistry (RobotRegistry.markOffline env robotId)) fleet
      (fun _ after => TakenOffline fleet.registry.robots after.registry.robots robotId)
      (fun _ => False) := by
    rw [onRegistry, onDispatcher, FleetDispatcher.onRegistry, ends_focus, ends_focus]
    by_cases hoff : own.state = .offline
    · exact ends_of_ok (RobotRegistry.run_markOffline_same env hget hoff)
        ⟨own, hget, .inl ⟨hoff, rfl⟩⟩
    · apply ends_of_ok (RobotRegistry.run_markOffline env h.backed.dependable hget hoff)
      refine ⟨own, hget, .inr ⟨hoff, fleet.registry.stamped env { own with state := .offline },
        rfl, ?_⟩⟩
      have hname : own.robotId = robotId := h.sound.consistent.named hget
      subst hname
      simp only [FleetState.registry, RobotRegistry.put_robots]
  have hgood : Ends (onRegistry (RobotRegistry.markOffline env robotId)) fleet
      (fun _ after => Good env after ∧ after.hauls = fleet.hauls) (fun _ => True) := by
    apply ends_onRegistry h (.markOffline robotId) trivial
    exact fun after hgood hhauls _ => ⟨fun _ => ⟨hgood, hhauls⟩, trivial⟩
  apply (hgood.and htaken).mono
  · rintro _ after ⟨⟨hafter, hhauls⟩, hrobots⟩
    refine ⟨hafter, ?_, hrobots⟩
    funext taskId
    simp only [FleetState.snapshot?, hhauls]
  · exact fun _ hfalse => hfalse.2

lemma ends_offlined (h : Good env fleet) {requeuedTaskId : Option ℤ} {reassignmentBlocked : Bool}
    (hknown : (fleet.registry.robots.get? robot.robotId).isSome) :
    Ends (HeartbeatMonitor.takeOffline env timeoutSec robot requeuedTaskId reassignmentBlocked)
      fleet (fun _ => Offlined env robot.robotId fleet) (fun _ => False) := by
  simp only [HeartbeatMonitor.takeOffline, ends_bind]
  apply (ends_markOffline h hknown).mono
  · rintro _ first ⟨hfirst, hsnapshots, htaken⟩
    apply ends_emit hfirst
    intro _ after hview hafter _
    have hrobots : after.registry.robots = first.registry.robots :=
      congrArg (fun view => view.board.robots) hview
    refine ⟨hafter, (congrArg FleetView.snapshot? hview).trans hsnapshots, ?_⟩
    rw [hrobots]
    exact htaken
  · exact fun _ hfalse => hfalse

lemma boundHaul_eq_some (hmaps : Maps fleet.view haulTasks) {taskId : ℤ} {haul : Haul} :
    HeartbeatMonitor.boundHaul fleet haulTasks robot = some (taskId, haul) ↔
      robot.currentTaskId = some taskId ∧ fleet.hauls.get? taskId = some haul := by
  simp only [HeartbeatMonitor.boundHaul, Option.bind_eq_some_iff, Option.map_eq_some_iff,
    Prod.mk.injEq]
  constructor
  · rintro ⟨own, htask, controller, hlookup, _, hget, rfl, rfl⟩
    obtain rfl := hmaps.own own controller hlookup
    exact ⟨htask, hget⟩
  · rintro ⟨htask, hget⟩
    have hsome : (fleet.view.snapshot? taskId).isSome := by
      simp [FleetState.view, FleetState.snapshot?, hget]
    exact ⟨taskId, htask, taskId, hmaps.all taskId hsome, haul, hget, rfl, rfl⟩

lemma Withdraws.boundHaul (hmaps : Maps fleet.view haulTasks) {taskId : ℤ}
    {snapshot : HaulTaskSnapshot}
    (h : Withdraws env now timeoutSec fleet.view robot taskId snapshot) :
    ∃ haul, HeartbeatMonitor.boundHaul fleet haulTasks robot = some (taskId, haul) ∧
      haul.snapshot.pickupCompleted = false := by
  obtain ⟨haul, hget, hsnapshot⟩ := Option.map_eq_some_iff.mp h.2.2.1
  refine ⟨haul, (boundHaul_eq_some hmaps).mpr ⟨h.2.1, hget⟩, ?_⟩
  rw [hsnapshot]
  exact h.2.2.2

lemma ends_quiet (h : Good env fleet)
    (hknown : (fleet.registry.robots.get? robot.robotId).isSome)
    (hquiet : ∀ taskId snapshot, ¬ Withdraws env now timeoutSec fleet.view robot taskId snapshot)
    {requeuedTaskId : Option ℤ} {reassignmentBlocked : Bool} {E : FleetState → Prop} :
    Ends (HeartbeatMonitor.takeOffline env timeoutSec robot requeuedTaskId reassignmentBlocked)
      fleet
      (fun _ after => Good env after ∧ Turned env now timeoutSec robot fleet.view after.view)
      E := by
  apply (ends_offlined h hknown).mono
  · rintro _ after ⟨hafter, hsame, htaken⟩
    exact ⟨hafter, .of_quiet htaken hquiet hsame⟩
  · exact fun _ hfalse => hfalse.elim

lemma ends_withdrawn (h : Good env fleet)
    (hknown : (fleet.registry.robots.get? robot.robotId).isSome) {taskId : ℤ} {haul : Haul}
    (hget : fleet.hauls.get? taskId = some haul)
    (hwithdraws : Withdraws env now timeoutSec fleet.view robot taskId haul.snapshot)
    {reason : String} :
    Ends (do
        let requeued ← onController taskId haul (HaulTaskController.requeue env reason)
        HeartbeatMonitor.takeOffline env timeoutSec robot (some requeued.taskId) false) fleet
      (fun _ after => Good env after ∧ Turned env now timeoutSec robot fleet.view after.view)
      (fun _ => ¬ Requeueable haul.snapshot) := by
  rw [ends_bind]
  apply ends_onController h hget (.requeue reason)
  · intro _ middle hmiddle hmove
    obtain ⟨_, snapshot', hown, hmove, hupdate⟩ := hmove.haul_cases
    obtain rfl := Option.some.inj (hwithdraws.2.2.1.symm.trans hown)
    obtain ⟨hraised, _⟩ | ⟨_, hok, hrequeued, robotId, hrobot, hfree⟩ :=
      hmove.requeue_cases hwithdraws.2.2.2
    · simp at hraised
    · apply (ends_offlined hmiddle (hfree.calm.known hknown)).mono
      · rintro _ after ⟨hafter, hsame, htaken⟩
        exact ⟨hafter, .of_withdrawn hwithdraws hok hrequeued hrobot hfree htaken hupdate hsame⟩
      · exact fun _ hfalse => hfalse.elim
  · intro after _ hmove
    obtain ⟨_, snapshot', hown, hmove, _⟩ := hmove.haul_cases
    obtain rfl := Option.some.inj (hwithdraws.2.2.1.symm.trans hown)
    obtain ⟨_, hrefused⟩ | ⟨hraised, _⟩ := hmove.requeue_cases hwithdraws.2.2.2
    · exact hrefused
    · simp at hraised

lemma ends_turn (h : Good env fleet) (hmaps : Maps fleet.view haulTasks)
    (hknown : (fleet.registry.robots.get? robot.robotId).isSome)
    (htimed : TimedOut env now timeoutSec robot) :
    Ends (HeartbeatMonitor.sweepTimedOut env timeoutSec haulTasks robot) fleet
      (fun _ after => Good env after ∧ Turned env now timeoutSec robot fleet.view after.view)
      (fun _ => ∃ taskId snapshot,
        Withdraws env now timeoutSec fleet.view robot taskId snapshot ∧
          ¬ Requeueable snapshot) := by
  simp only [HeartbeatMonitor.sweepTimedOut, ends_bind]
  apply ends_emit h
  intro _ first hview hgood _
  have hrobots : first.registry.robots = fleet.registry.robots :=
    congrArg (fun view => view.board.robots) hview
  rw [← hview] at hmaps ⊢
  rw [← hrobots] at hknown
  rw [ends_get]
  cases hbound : HeartbeatMonitor.boundHaul first haulTasks robot with
  | none =>
    apply ends_quiet hgood hknown
    intro taskId snapshot hwithdraws
    obtain ⟨haul, hsome, _⟩ := hwithdraws.boundHaul hmaps
    rw [hbound] at hsome
    simp at hsome
  | some bound =>
    obtain ⟨taskId, haul⟩ := bound
    obtain ⟨htask, hget⟩ := (boundHaul_eq_some hmaps).mp hbound
    dsimp only
    split_ifs with hpickup
    · apply ends_quiet hgood hknown
      intro other snapshot hwithdraws
      obtain ⟨_, hsome, hnot⟩ := hwithdraws.boundHaul hmaps
      rw [hbound, Option.some.injEq, Prod.mk.injEq] at hsome
      rw [← hsome.2, hpickup] at hnot
      simp at hnot
    · have hsnapshot : first.view.snapshot? taskId = some haul.snapshot := by
        simp [FleetState.view, FleetState.snapshot?, hget]
      have hwithdraws : Withdraws env now timeoutSec first.view robot taskId haul.snapshot :=
        ⟨htimed, htask, hsnapshot, by simpa using hpickup⟩
      apply (ends_withdrawn hgood hknown hget hwithdraws).mono
      · exact fun _ _ hafter => hafter
      · exact fun _ hrefused => ⟨taskId, haul.snapshot, hwithdraws, hrefused⟩

lemma ends_turns (h : Good env fleet) (hmaps : Maps fleet.view haulTasks)
    (robots : List RobotRecord)
    (hknown : ∀ robot ∈ robots, (fleet.registry.robots.get? robot.robotId).isSome) :
    Ends (HeartbeatMonitor.sweepLoop env now timeoutSec haulTasks robots) fleet
      (fun _ after => Good env after ∧ Sweepable env now timeoutSec fleet.view robots ∧
        Swept env now timeoutSec robots fleet.view after.view)
      (fun _ => ¬ Sweepable env now timeoutSec fleet.view robots) := by
  induction robots generalizing fleet with
  | nil =>
    refine ⟨h, ⟨by simp, by simp, .nil⟩, by simp, ?_, fun _ _ _ => rfl, by simp, fun _ => .inl rfl⟩
    exact fun _ _ hget _ => hget
  | cons robot robots ih =>
    have hlater : ∀ other ∈ robots, (fleet.registry.robots.get? other.robotId).isSome :=
      fun other hmem => hknown other (List.mem_cons_of_mem robot hmem)
    have hskip : ¬ TimedOut env now timeoutSec robot → (robot.state ≠ .offline →
        ∃ valid, isHeartbeatValid env robot now timeoutSec = .ok valid) →
        Ends (HeartbeatMonitor.sweepLoop env now timeoutSec haulTasks robots) fleet
          (fun _ after => Good env after ∧
            Sweepable env now timeoutSec fleet.view (robot :: robots) ∧
              Swept env now timeoutSec (robot :: robots) fleet.view after.view)
          (fun _ => ¬ Sweepable env now timeoutSec fleet.view (robot :: robots)) := by
      intro hnot hread
      rw [sweepable_cons hnot hread]
      apply (ih h hmaps hlater).mono
      · rintro _ after ⟨hafter, hsweepable, hswept⟩
        exact ⟨hafter, hsweepable, hswept.cons hnot⟩
      · exact fun _ hnot => hnot
    rw [HeartbeatMonitor.sweepLoop]
    split_ifs with hoff
    · exact hskip (fun htimed => htimed.1 hoff) (absurd hoff)
    · rw [ends_bind]
      cases hvalid : isHeartbeatValid env robot now timeoutSec with
      | error e =>
        rw [ends_orRaise_error]
        intro hsweepable
        obtain ⟨_, hread⟩ := hsweepable.readable robot List.mem_cons_self hoff
        simp [hvalid] at hread
      | ok valid =>
        rw [ends_orRaise_ok]
        cases valid with
        | true =>
          apply hskip
          · intro htimed
            simp [TimedOut, hvalid] at htimed
          · exact fun _ => ⟨true, hvalid⟩
        | false =>
          have htimed : TimedOut env now timeoutSec robot := ⟨hoff, hvalid⟩
          simp only [Bool.false_eq_true, if_false, ends_bind]
          apply (ends_turn h hmaps (hknown robot List.mem_cons_self) htimed).mono
          · rintro item middle ⟨hmiddle, hturn⟩
            rw [hturn.sweepable_iff htimed]
            apply (ih hmiddle (hturn.maps hmaps)
              (fun other hmem => hturn.known _ (hlater other hmem))).mono
            · rintro _ after ⟨hafter, hsweepable, hswept⟩
              exact ⟨hafter, hsweepable, hturn.swept htimed hswept⟩
            · exact fun _ hnot => hnot
          · rintro _ ⟨taskId, snapshot, hwithdraws, hrefused⟩ hsweepable
            exact hrefused
              (hsweepable.requeueable robot List.mem_cons_self taskId snapshot hwithdraws)

end Loop

section Exact

variable (env : Environment)

def WithdrawsOwn (fleet : FleetState) (now : Datetime) (timeoutSec : Floating) : Prop :=
  ∀ robot ∈ fleet.registry.listRobots, ∀ taskId snapshot,
    Withdraws env now timeoutSec fleet.view robot taskId snapshot →
    ∃ own ∈ fleet.registry.listRobots, snapshot.robotId = some own.robotId ∧
      TimedOut env now timeoutSec own

/-- The sweep returns, leaves no robot in service that has timed out, and touches nothing else. -/
structure SweepExact (fleet : FleetState) (now : Datetime) (timeoutSec : Floating)
    (haulTasks : List (ℤ × ℤ)) : Prop where
  returns : raises (HeartbeatMonitor.sweep env now timeoutSec haulTasks) fleet = false
  heard : ∀ robot ∈ (step env fleet (.sweep now timeoutSec haulTasks)).registry.listRobots,
    robot.state ≠ .offline → isHeartbeatValid env robot now timeoutSec = .ok true
  kept : ∀ robotId robot, fleet.registry.robots.get? robotId = some robot →
    isHeartbeatValid env robot now timeoutSec = .ok true ∨ robot.state = .offline →
    ∃ robot',
      (step env fleet (.sweep now timeoutSec haulTasks)).registry.robots.get? robotId =
        some robot' ∧ robot'.state = robot.state ∧ robot'.currentTaskId = robot.currentTaskId
  withdrawn : ∀ taskId snapshot snapshot', fleet.snapshot? taskId = some snapshot →
    (step env fleet (.sweep now timeoutSec haulTasks)).snapshot? taskId = some snapshot' →
    snapshot.wmsStatus ≠ .requeued → snapshot'.wmsStatus = .requeued →
    snapshot.pickupCompleted = false ∧ ∃ robot ∈ fleet.registry.listRobots,
      snapshot.robotId = some robot.robotId ∧ TimedOut env now timeoutSec robot

variable {env} {start fleet : FleetState}

lemma mem_listRobots {registry : RobotRegistry} (h : Consistent registry.robots)
    {robot : RobotRecord} :
    robot ∈ registry.listRobots ↔ registry.robots.get? robot.robotId = some robot := by
  rw [RobotRegistry.listRobots, Dict.mem_sortedValues]
  constructor
  · rintro ⟨robotId, hget⟩
    rw [h.named hget, hget]
  · exact fun hget => ⟨robot.robotId, hget⟩

lemma step_sweep (fleet : FleetState) (now : Datetime) (timeoutSec : Floating)
    (haulTasks : List (ℤ × ℤ)) :
    step env fleet (.sweep now timeoutSec haulTasks) =
      final (HeartbeatMonitor.sweep env now timeoutSec haulTasks) fleet := by
  simp only [step, FleetOp.call, final, EStateM.run_bind]
  cases (HeartbeatMonitor.sweep env now timeoutSec haulTasks).run fleet <;> rfl

lemma ends_sweep (h : Good env fleet) (now : Datetime) (timeoutSec : Floating)
    {haulTasks : List (ℤ × ℤ)} (hmaps : Maps fleet.view haulTasks) :
    Ends (HeartbeatMonitor.sweep env now timeoutSec haulTasks) fleet
      (fun _ after => Good env after ∧
        Sweepable env now timeoutSec fleet.view fleet.registry.listRobots ∧
          Swept env now timeoutSec fleet.registry.listRobots fleet.view after.view)
      (fun _ => ¬ Sweepable env now timeoutSec fleet.view fleet.registry.listRobots) := by
  rw [HeartbeatMonitor.sweep, ends_bind, ends_get]
  apply ends_turns h hmaps
  intro robot hmem
  exact Option.isSome_iff_exists.mpr ⟨robot, (mem_listRobots h.sound.consistent).mp hmem⟩

section Swept

variable {now : Datetime} {timeoutSec : Floating} {haulTasks : List (ℤ × ℤ)} {after : FleetState}

lemma Swept.get?_of_not_timedOut (h : Good env fleet) (hown : WithdrawsOwn env fleet now timeoutSec)
    (hswept : Swept env now timeoutSec fleet.registry.listRobots fleet.view after.view)
    {robotId : String} (hnot : ∀ robot, fleet.registry.robots.get? robotId = some robot →
      ¬ TimedOut env now timeoutSec robot) :
    after.registry.robots.get? robotId = fleet.registry.robots.get? robotId := by
  apply hswept.untouched robotId
  · rintro robot hmem htimed rfl
    exact hnot robot ((mem_listRobots h.sound.consistent).mp hmem) htimed
  · intro robot hmem taskId snapshot hwithdraws hrobot
    obtain ⟨own, hlisted, hname, htimed⟩ := hown robot hmem taskId snapshot hwithdraws
    obtain rfl : robotId = own.robotId := Option.some.inj (hrobot.symm.trans hname)
    exact hnot own ((mem_listRobots h.sound.consistent).mp hlisted) htimed

lemma Swept.heard (h : Good env fleet) (hgood : Good env after)
    (hsweepable : Sweepable env now timeoutSec fleet.view fleet.registry.listRobots)
    (hown : WithdrawsOwn env fleet now timeoutSec)
    (hswept : Swept env now timeoutSec fleet.registry.listRobots fleet.view after.view)
    {robot : RobotRecord} (hmem : robot ∈ after.registry.listRobots)
    (hstate : robot.state ≠ .offline) : isHeartbeatValid env robot now timeoutSec = .ok true := by
  have hget := (mem_listRobots hgood.sound.consistent).mp hmem
  have hnot : ∀ own, fleet.registry.robots.get? robot.robotId = some own →
      ¬ TimedOut env now timeoutSec own := by
    intro own hgetOwn htimed
    have hname : own.robotId = robot.robotId := h.sound.consistent.named hgetOwn
    obtain ⟨moved, hmoved, hoff⟩ := hswept.timedOut own
      ((mem_listRobots h.sound.consistent).mpr (hname.symm ▸ hgetOwn)) htimed
    rw [hname] at hmoved
    obtain rfl := Option.some.inj (hget.symm.trans hmoved)
    exact hstate hoff
  have hbefore : fleet.registry.robots.get? robot.robotId = some robot := by
    rw [← hswept.get?_of_not_timedOut h hown hnot]
    exact hget
  obtain ⟨valid, hvalid⟩ := hsweepable.readable robot
    ((mem_listRobots h.sound.consistent).mpr hbefore) hstate
  cases valid with
  | true => exact hvalid
  | false => exact absurd ⟨hstate, hvalid⟩ (hnot robot hbefore)

end Swept

/-- A sweep does what it is for if and only if it can read all heartbeats and withdraw all the
hauls of timed-out robots, each once and from a robot that has timed out. -/
theorem sweepExact_iff (hstart : Started env start)
    (hreach : Reachable (step env) Neutral start fleet) (now : Datetime) (timeoutSec : Floating)
    (haulTasks : List (ℤ × ℤ)) (hmaps : Maps fleet.view haulTasks) :
    SweepExact env fleet now timeoutSec haulTasks ↔
      Sweepable env now timeoutSec fleet.view fleet.registry.listRobots ∧
        WithdrawsOwn env fleet now timeoutSec := by
  have h := hstart.reachable_good hreach
  have hends := ends_sweep h now timeoutSec hmaps
  constructor
  · intro hexact
    obtain ⟨_, _, hsweepable, hswept⟩ := hends.of_returns hexact.returns
    rw [← step_sweep] at hswept
    refine ⟨hsweepable, ?_⟩
    intro robot hmem taskId snapshot hwithdraws
    obtain ⟨snapshot', hget, hrequeued⟩ := hswept.requeued robot hmem taskId snapshot hwithdraws
    have hok := (hsweepable.requeueable robot hmem taskId snapshot hwithdraws).2
    have hwms : snapshot.wmsStatus ≠ .requeued := by
      intro heq
      simp [heq] at hok
    exact (hexact.withdrawn taskId snapshot snapshot' hwithdraws.2.2.1 hget hwms hrequeued).2
  · rintro ⟨hsweepable, hown⟩
    have hreturns : raises (HeartbeatMonitor.sweep env now timeoutSec haulTasks) fleet = false := by
      by_contra hraises
      exact hends.of_raises (by simpa using hraises) hsweepable
    obtain ⟨_, hgood, _, hswept⟩ := hends.of_returns hreturns
    rw [← step_sweep] at hgood hswept
    refine ⟨hreturns, ?_, ?_, ?_⟩
    · exact fun robot hmem hstate => hswept.heard h hgood hsweepable hown hmem hstate
    · intro robotId robot hget hspared
      refine ⟨robot, ?_, rfl, rfl⟩
      rw [hswept.get?_of_not_timedOut h hown, hget]
      intro own hgetOwn htimed
      obtain rfl := Option.some.inj (hget.symm.trans hgetOwn)
      rcases hspared with hvalid | hoff
      · simp [TimedOut, hvalid] at htimed
      · exact htimed.1 hoff
    · intro taskId snapshot snapshot' hbefore hafter hwms hrequeued
      rcases hswept.kept taskId with hsame | ⟨robot, hmem, own, hwithdraws⟩
      · have heq : snapshot' = snapshot := by
          have hget := hafter.symm.trans (hsame.trans hbefore)
          exact Option.some.inj hget
        rw [heq] at hrequeued
        exact absurd hrequeued hwms
      · obtain rfl := Option.some.inj (hbefore.symm.trans hwithdraws.2.2.1)
        exact ⟨hwithdraws.2.2.2, hown robot hmem taskId snapshot hwithdraws⟩

lemma maps_keys (fleet : FleetState) :
    Maps fleet.view (fleet.hauls.keys.map fun taskId => (taskId, taskId)) := by
  have hlookup : ∀ (keys : List ℤ) (taskId : ℤ),
      (keys.map fun taskId => (taskId, taskId)).lookup taskId =
        if taskId ∈ keys then some taskId else none := by
    intro keys taskId
    induction keys with
    | nil => rfl
    | cons key keys ih =>
      rw [List.map_cons, lookup_cons_ite, ih]
      by_cases heq : taskId = key
      · simp [heq]
      · simp [heq]
  refine ⟨?_, ?_⟩
  · intro taskId controller hmapped
    rw [hlookup] at hmapped
    split_ifs at hmapped
    exact (Option.some.inj hmapped).symm
  · intro taskId hsome
    rw [hlookup, if_pos]
    rw [Dict.mem_keys]
    simpa [FleetState.view, FleetState.snapshot?] using hsome

theorem sweepExact_iff_started :
    let fleet := stillFleet [newHaul 1, assignHaul 1, .haul 1 .start]
    SweepExact still fleet ⟨true, 31000000⟩ 30 [(1, 1)] ↔
      Sweepable still ⟨true, 31000000⟩ 30 fleet.view fleet.registry.listRobots ∧
        WithdrawsOwn still fleet ⟨true, 31000000⟩ 30 := by
  intro fleet
  have hkeys : fleet.hauls.keys = [1] := by decide +kernel
  have hmaps := maps_keys fleet
  rw [hkeys] at hmaps
  exact sweepExact_iff seeded_still.toStarted
    ⟨[newHaul 1, assignHaul 1, .haul 1 .start], ⟨trivial, trivial, trivial, trivial⟩, rfl⟩
    ⟨true, 31000000⟩ 30 [(1, 1)] hmaps

theorem sweep_at_pickup_raises :
    let fleet := stillFleet
      [newHaul 1, assignHaul 1, .haul 1 .start, .haul 1 (.completeNavigationToPickup false)]
    Reachable (step still) Neutral (opened still ⟨0, none⟩) fleet ∧
      Maps fleet.view [(1, 1)] ∧ ¬ SweepExact still fleet ⟨true, 31000000⟩ 30 [(1, 1)] := by
  intro fleet
  have hkeys : fleet.hauls.keys = [1] := by decide +kernel
  have hmaps := maps_keys fleet
  rw [hkeys] at hmaps
  refine ⟨⟨[newHaul 1, assignHaul 1, .haul 1 .start, .haul 1 (.completeNavigationToPickup false)],
    ⟨trivial, trivial, trivial, trivial, trivial⟩, rfl⟩, hmaps, ?_⟩
  intro hexact
  have hraises :
      raises (HeartbeatMonitor.sweep still ⟨true, 31000000⟩ 30 [(1, 1)]) fleet = true := by
    decide +kernel
  rw [hexact.returns] at hraises
  exact Bool.false_ne_true hraises

end Exact

end Fleet
