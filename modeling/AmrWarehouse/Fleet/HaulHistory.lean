import AmrWarehouse.Library.Runs
import AmrWarehouse.Fleet.Emissions

/-! When the sink of a haul controller is the history of what it emitted. -/

namespace Fleet

open Library HaulTaskController

/-- An operation of the controller, or whatever happens to the dispatcher between two of them. -/
inductive HaulStep
  | call (op : HaulOp)
  | others (dispatcher : FleetDispatcher)

structure HaulRun where
  controller : HaulTaskController
  emitted : List FleetEvent

def haulEvents : List String :=
  ["TASK_CREATED", "NAV_STARTED", "ROBOT_BUSY", "NAV_SUCCEEDED", "TASK_REQUEUED", "TASK_REASSIGNED",
    "TASK_SUCCEEDED"]

def FleetEvent.isOf (taskId : ℤ) (event : FleetEvent) : Bool :=
  event.taskId = some taskId ∧ event.event ∈ haulEvents

namespace HaulRun

def taskId (run : HaulRun) : ℤ := run.controller.haul.snapshot.taskId

def advance (run : HaulRun) (after : HaulTaskController) : HaulRun :=
  ⟨after, run.emitted ++ emissions run.controller after⟩

def created (env : Environment) (dispatcher : FleetDispatcher) (haul : Haul) : HaulRun :=
  let pickupStation := haul.snapshot.pickupStation
  let dropoffStation := haul.snapshot.dropoffStation
  advance ⟨⟨dispatcher, haul⟩, []⟩ (final (emit env "TASK_CREATED"
    (some s!"pickup={pickupStation}; dropoff={dropoffStation}")) ⟨dispatcher, haul⟩)

def step (env : Environment) (run : HaulRun) : HaulStep → HaulRun
  | .call op => run.advance (final (op.call env) run.controller)
  | .others dispatcher => ⟨{ run.controller with dispatcher := dispatcher }, run.emitted⟩

/-- The sink is the list of what was emitted, and the dispatcher's log has each event as often. -/
structure Complete (run : HaulRun) : Prop where
  sink : run.controller.haul.eventSink = some run.emitted
  logged : ∀ event ∈ run.emitted, run.controller.log.count event = run.emitted.count event

/-- What the call announces is new, or was last announced in a second that has passed. -/
def Unrepeated (env : Environment) (run : HaulRun) : HaulStep → Prop
  | .call op => ∀ event ∈ run.controller.haul.eventSink.getD [],
      event.announcement ∈ run.controller.announcements env op →
        ∀ n, run.controller.ticks ≤ n → env.utcStamp (env.clock n) ≠ event.timestamp
  | .others dispatcher => ∃ new, dispatcher.eventSink = run.controller.log ++ new ∧
      ∀ event ∈ new, event.isOf run.taskId = false

structure Kept (run : HaulRun) : Prop where
  sink : run.controller.haul.eventSink = some run.emitted
  own : run.controller.log.filter (FleetEvent.isOf run.taskId) = run.emitted
  distinct : run.emitted.Nodup

variable {env : Environment} {run : HaulRun} {after : HaulTaskController}
variable {said : List Announcement}

lemma Kept.complete (h : Kept run) : Complete run where
  sink := h.sink
  logged event hevent := by
    have hof : event.isOf run.taskId = true := by
      rw [← h.own] at hevent
      exact (List.mem_filter.mp hevent).2
    rw [← h.own, List.count_filter hof]

lemma Kept.advance (h : Kept run) (hadds : Adds env said run.controller after)
    (hdistinct : said.Nodup) (hevents : ∀ announced ∈ said, announced.event ∈ haulEvents)
    (hlater : ∀ event ∈ run.emitted, event.announcement ∈ said →
      ∀ n, run.controller.ticks ≤ n → env.utcStamp (env.clock n) ≠ event.timestamp) :
    Kept (run.advance after) := by
  obtain ⟨new, hlogs, hsaid⟩ := hadds
  have hannounced : ∀ event ∈ new.filter FleetEvent.isEmitted, event.announcement ∈ said :=
    fun event hevent => hsaid.subset (List.mem_map_of_mem hevent)
  have hnodup : (run.emitted ++ new.filter FleetEvent.isEmitted).Nodup := by
    rw [List.nodup_append]
    refine ⟨h.distinct, (hdistinct.sublist hsaid).of_map _, ?_⟩
    rintro event hold _ hnew rfl
    obtain ⟨-, n, hn, hstamp⟩ := hlogs.stamped event hnew
    exact hlater event hold (hannounced event hnew) n hn hstamp.symm
  have hof : new.filter (FleetEvent.isOf run.taskId) = new.filter FleetEvent.isEmitted := by
    apply List.filter_congr
    intro event hmem
    rw [Bool.eq_iff_iff]
    constructor
    · intro hof
      have hevent := (of_decide_eq_true hof).2
      apply decide_eq_true
      rintro hassigned
      rw [hassigned] at hevent
      exact absurd hevent (by decide)
    · intro hemitted
      have hnew := List.mem_filter.mpr ⟨hmem, hemitted⟩
      exact decide_eq_true ⟨(hlogs.stamped event hnew).1, hevents _ (hannounced event hnew)⟩
  refine ⟨?_, ?_, ?_⟩
  · rw [HaulRun.advance, hlogs.emissions_eq, hlogs.recorded, h.sink, Option.map_some,
      recordEvent_fresh hnodup]
  · rw [HaulRun.advance, hlogs.emissions_eq, taskId, hlogs.logged, List.filter_append, ← h.own,
      ← hof, hlogs.task_eq, taskId]
  · rwa [HaulRun.advance, hlogs.emissions_eq]

def WellFormed (said : List Announcement) : Prop :=
  said.Nodup ∧ ∀ announced ∈ said, announced.event ∈ haulEvents

lemma wellFormed_singleton {announced : Announcement} (h : announced.event ∈ haulEvents) :
    WellFormed [announced] := by
  refine ⟨List.nodup_singleton _, fun _ hmem => ?_⟩
  rw [List.mem_singleton.mp hmem]
  exact h

lemma wellFormed_nil : WellFormed [] := ⟨List.nodup_nil, by simp⟩

lemma wellFormed_ite {c : Prop} [Decidable c] (h : WellFormed said) :
    WellFormed (if c then said else []) := by
  split_ifs
  · exact h
  · exact wellFormed_nil

variable (env) in
lemma wellFormed_announcements (controller : HaulTaskController) (op : HaulOp) :
    WellFormed (controller.announcements env op) := by
  cases op with
  | assign now timeout =>
    apply wellFormed_ite
    cases controller.chosenRobot env now timeout with
    | none => exact wellFormed_nil
    | some robotId => exact wellFormed_singleton (by simp [haulEvents])
  | start =>
    apply wellFormed_ite
    constructor
    · simp
    · intro announced hmem
      rcases List.mem_cons.mp hmem with rfl | hlast
      · simp [haulEvents]
      · rw [List.mem_singleton.mp hlast]
        simp [haulEvents]
  | completeNavigationToPickup _ =>
    exact wellFormed_ite (wellFormed_singleton (by simp [haulEvents]))
  | completePickup => exact wellFormed_ite (wellFormed_singleton (by simp [haulEvents]))
  | completeNavigationToDropoff _ =>
    exact wellFormed_ite (wellFormed_singleton (by simp [haulEvents]))
  | completeDropoff => exact wellFormed_ite (wellFormed_singleton (by simp [haulEvents]))
  | fail reason => exact wellFormed_nil
  | cancel reason => exact wellFormed_nil
  | requeue reason => exact wellFormed_ite (wellFormed_singleton (by simp [haulEvents]))

lemma Kept.step (h : Kept run) {next : HaulStep} (hnext : run.Unrepeated env next) :
    Kept (run.step env next) := by
  cases next with
  | call op =>
    have hadds : Adds env (run.controller.announcements env op) run.controller
        (final (op.call env) run.controller) := by
      rcases (call_adds env run.controller op).final_or with ⟨_, hadds⟩ | hadds
      · exact hadds
      · exact hadds
    have hform := wellFormed_announcements env run.controller op
    refine h.advance hadds hform.1 hform.2 ?_
    rw [Unrepeated, h.sink, Option.getD_some] at hnext
    exact hnext
  | others dispatcher =>
    obtain ⟨new, hnew, hothers⟩ := hnext
    refine ⟨h.sink, ?_, h.distinct⟩
    have hnone : new.filter (FleetEvent.isOf run.taskId) = [] := by
      rw [List.filter_eq_nil_iff]
      intro event hmem
      rw [hothers event hmem]
      decide
    change dispatcher.eventSink.filter (FleetEvent.isOf run.taskId) = run.emitted
    rw [hnew, List.filter_append, hnone, List.append_nil]
    exact h.own

lemma kept_created {dispatcher : FleetDispatcher} {haul : Haul} (hsink : haul.eventSink = some [])
    (hnew : ∀ event ∈ dispatcher.eventSink, event.isOf haul.snapshot.taskId = false) :
    Kept (created env dispatcher haul) := by
  have hempty : Kept ⟨⟨dispatcher, haul⟩, []⟩ := by
    refine ⟨hsink, ?_, List.nodup_nil⟩
    rw [List.filter_eq_nil_iff]
    exact fun event hmem => Bool.eq_false_iff.mp (hnew event hmem)
  have hadds : ∀ reason, Adds env [⟨"TASK_CREATED", haul.snapshot.robotId, reason⟩]
      ⟨dispatcher, haul⟩ (final (emit env "TASK_CREATED" reason) ⟨dispatcher, haul⟩) := by
    intro reason
    have hevent : "TASK_CREATED" ≠ "TASK_ASSIGNED" := by decide
    rcases (ends_emit_adds env ⟨dispatcher, haul⟩ hevent reason).final_or with
      ⟨_, hadds, -⟩ | hfalse
    · exact hadds
    · exact hfalse.elim
  have hform : ∀ reason, WellFormed [⟨"TASK_CREATED", haul.snapshot.robotId, reason⟩] :=
    fun reason => wellFormed_singleton (by simp [haulEvents])
  exact hempty.advance (hadds _) (hform _).1 (hform _).2 (by simp)

end HaulRun

open HaulRun

lemma Haul.eventSink_of_create {taskId : ℤ} {pickupStation dropoffStation priority : String}
    {eventSink : Option (List FleetEvent)} {haul : Haul}
    (h : Haul.create taskId pickupStation dropoffStation priority eventSink = .ok haul) :
    haul.eventSink = eventSink ∧ haul.snapshot.taskId = taskId := by
  rw [Haul.create] at h
  split_ifs at h
  rw [← Except.ok.inj h]
  exact ⟨rfl, rfl⟩

/-- A sink of its own is the history of the controller as long as nothing is announced again in the
same second. On the dispatcher's list an event is never added twice. -/
theorem haul_history_complete (env : Environment) (dispatcher : FleetDispatcher) (taskId : ℤ)
    (pickupStation dropoffStation priority : String) (haul : Haul)
    (hcreate : Haul.create taskId pickupStation dropoffStation priority (some []) = .ok haul)
    (hnew : ∀ event ∈ dispatcher.eventSink, event.isOf taskId = false) (steps : List HaulStep)
    (hsteps : Guarded (HaulRun.step env) (HaulRun.Unrepeated env) (created env dispatcher haul)
      steps) :
    Always (HaulRun.step env) Complete (created env dispatcher haul) steps ∧
      ∀ (controller : HaulTaskController) event reason, controller.haul.eventSink = none →
        Ends (emit env event reason) controller
          (fun _ after => ∃ fleetEvent,
            after.log = recordEvent (controller.log ++ [fleetEvent]) fleetEvent ∧
              after.log = controller.log ++ [fleetEvent])
          (fun _ => False) := by
  obtain ⟨hsink, htask⟩ := Haul.eventSink_of_create hcreate
  constructor
  · refine (hsteps.always Kept (fun _ _ hkept hnext => hkept.step hnext) ?_).mono
      (fun _ hkept => hkept.complete)
    exact kept_created hsink (htask ▸ hnew)
  · intro controller event reason _
    refine ⟨⟨env.utcStamp (env.clock controller.ticks), event,
      some controller.haul.snapshot.taskId, controller.haul.snapshot.robotId, reason⟩, ?_, rfl⟩
    rw [recordEvent, if_pos (by simp)]
    rfl

def HaulRun.News (env : Environment) (run : HaulRun) : HaulStep → Prop
  | .call op => ∀ event ∈ run.controller.haul.eventSink.getD [],
      event.announcement ∉ run.controller.announcements env op
  | .others _ => False

instance (env : Environment) (run : HaulRun) : ∀ next, Decidable (run.News env next)
  | .call _ => inferInstanceAs (Decidable (∀ _ ∈ _, _))
  | .others _ => inferInstanceAs (Decidable False)

lemma HaulRun.News.unrepeated {env : Environment} {run : HaulRun} {next : HaulStep}
    (h : run.News env next) : run.Unrepeated env next := by
  cases next with
  | call op => exact fun event hevent hannounced => absurd hannounced (h event hevent)
  | others dispatcher => exact h.elim

def shelfToDock : Haul where
  snapshot :=
    { taskId := 1
      pickupStation := "shelf"
      dropoffStation := "dock"
      priority := "normal"
      wmsStatus := .pending
      assignmentStatus := none
      executionPhase := .idle
      robotId := none
      pickupCompleted := false
      reason := none }
  eventSink := some []

def stillRun : HaulRun := created still (opened still ⟨0, none⟩).dispatcher shelfToDock

/-- A haul is carried out within one second. -/
theorem haul_history_complete_at_once :
    Always (HaulRun.step still) Complete stillRun
        ([.assign ⟨true, 0⟩ defaultHeartbeatTimeoutSec, .start, .completeNavigationToPickup false,
          .completePickup, .completeNavigationToDropoff false, .completeDropoff].map .call) ∧
      ∀ (controller : HaulTaskController) event reason, controller.haul.eventSink = none →
        Ends (emit still event reason) controller
          (fun _ after => ∃ fleetEvent,
            after.log = recordEvent (controller.log ++ [fleetEvent]) fleetEvent ∧
              after.log = controller.log ++ [fleetEvent])
          (fun _ => False) := by
  have hnews : Guarded (HaulRun.step still) (HaulRun.News still) stillRun
      ([.assign ⟨true, 0⟩ defaultHeartbeatTimeoutSec, .start, .completeNavigationToPickup false,
        .completePickup, .completeNavigationToDropoff false, .completeDropoff].map .call) := by
    decide +kernel
  exact haul_history_complete still (opened still ⟨0, none⟩).dispatcher 1 "shelf" "dock" "normal"
    shelfToDock rfl (by decide +kernel) _ (hnews.mono fun _ _ h => h.unrepeated)

/-- Requeued and started again in the same second: the second start is not in the history. -/
theorem restart_is_lost :
    ¬ Complete (runAll (HaulRun.step still) stillRun
      ([.assign ⟨true, 0⟩ defaultHeartbeatTimeoutSec, .start, .requeue "lost",
        .assign ⟨true, 0⟩ defaultHeartbeatTimeoutSec, .start].map .call)) := by
  intro hcomplete
  exact absurd hcomplete.sink (by decide +kernel)

end Fleet
