import AmrWarehouse.Wms.HttpCalls

/-! What is left of the selected task when a run of the executor is over. -/

namespace Wms

open Library

inductive Queue
  | database
  | api (apiBaseUrl : String)

namespace Queue

def runOnce (options : ExecutorOptions) : Queue → Program ExecutorResult
  | database => runExecutorOnce none options
  | api apiBaseUrl => runHttpExecutorOnce apiBaseUrl options

def nextTask : Queue → Program (Option ReportedTask)
  | database => do return (← fetchNextPendingTask).map Task.reported
  | api apiBaseUrl => getNextPendingTaskViaHttp apiBaseUrl

def goal (file : Except WmsError TaskPoints) (task : ReportedTask) : Queue → Except WmsError Pose
  | database => Prod.snd <$> resolveTargetPose task.2.targetName file
  | api _ => .ok ⟨task.2.frameId, task.2.x, task.2.y, task.2.yaw⟩

end Queue

def Request.granted : (request : Request) → Except WmsError request.Answer → Bool
  | .updateStatus _ _ _, .error _ => false
  | .patchStatus _ _ _, .error _ => false
  | _, _ => true

section Statements

variable (queue : Queue) (around : Surroundings) (options : ExecutorOptions) (site : Site)

def WritesSucceed : Prop :=
  (queue.runOnce options).heard (answer around) Request.granted site = true

def Selects (task : ReportedTask) : Prop :=
  ∃ site', (queue.nextTask.run (answer around)).run site = .ok (some task) site'

def GateOpens : Prop :=
  ∃ waited course,
    (waitForExecuteReadyGate around options.readyTimeoutSec options.readyPollIntervalSec).run
      site.course = .ok waited course ∧ waited.readyGate.ready = true

def Crashes : Prop :=
  GateOpens around options site ∧
    ∃ e, around.runtime.navigations site.course.sent.length = .error e

def NavigationCrashes (task : ReportedTask) : Prop :=
  (∃ pose, queue.goal around.file task = .ok pose) ∧ Crashes around options site

def statusOf (id : ℕ) : Option TaskStatus := (site.database.tasks.find? id).map TaskRow.status

def LeftRunning (task : ReportedTask) : Prop := statusOf site task.1.toNat = some .running

instance : Decidable (WritesSucceed queue around options site) :=
  inferInstanceAs (Decidable (_ = _))

instance (task : ReportedTask) : Decidable (LeftRunning site task) :=
  inferInstanceAs (Decidable (_ = _))

end Statements

variable {queue : Queue} {around : Surroundings} {options : ExecutorOptions} {site site' : Site}
  {id : ℕ} {row : TaskRow}

lemma statusOf_written (h : site.database.tasks.find? id = some row) (status : TaskStatus)
    (reason : String) : statusOf (site.written around id status reason) id = some status := by
  rw [statusOf, find?_written_self h]
  rfl

lemma finalStatus_ne_running (navigation : NavigationResult) :
    finalStatus navigation ≠ .running := by
  rw [finalStatus]
  split_ifs <;> decide

lemma run_onCourse {α : Type} {call : Call Course α} {a : α} {course : Course}
    (h : call.run site.course = .ok a course) :
    (onCourse call).run site = .ok a { site with course := course } := by
  rw [onCourse, run_focus, h]

lemma preserves_checkReadyGate (sent : List Pose) :
    Preserves (fun course : Course => course.sent = sent) (checkReadyGate around) := by
  intro course hcourse
  simp only [checkReadyGate, ends_bind, ends_get, ends_set]
  exact preserves_orRaise _ _ hcourse

lemma preserves_pollReadyGate (sent : List Pose) (startTime deadline poll : ℚ) (polls : ℕ)
    (gate : ReadyGateResult) (attempts : ℕ) :
    Preserves (fun course : Course => course.sent = sent)
      (pollReadyGate around (sleep around) startTime deadline poll polls gate attempts) := by
  induction polls generalizing gate attempts with
  | zero => exact preserves_throw _
  | succ polls ih =>
    have hclock : Preserves (fun course : Course => course.sent = sent) (monotonic around) :=
      preserves_bind (preserves_modify fun _ h => h) fun _ _ h => h
    have hresult : ∀ gate attempts, Preserves (fun course : Course => course.sent = sent)
        (readyWaitResult around startTime gate attempts) :=
      fun gate attempts => preserves_bind hclock fun _ => preserves_pure _
    refine preserves_bind hclock fun now => ?_
    refine preserves_ite (fun _ => hresult _ _) fun _ => preserves_bind hclock fun now => ?_
    refine preserves_ite (fun _ => hresult _ _) fun _ => ?_
    refine preserves_bind (preserves_modify fun _ h => h) fun _ => ?_
    refine preserves_bind (preserves_checkReadyGate sent) fun gate => ?_
    exact preserves_ite (fun _ => hresult _ _) fun _ => ih _ _

lemma sent_of_wait {waited : ReadyWaitResult} {course course' : Course}
    {readyTimeoutSec readyPollIntervalSec : ℚ}
    (h : (waitForExecuteReadyGate around readyTimeoutSec readyPollIntervalSec).run course =
      .ok waited course') : course'.sent = course.sent := by
  have hclock : Preserves (fun course' : Course => course'.sent = course.sent)
      (monotonic around) :=
    preserves_bind (preserves_modify fun _ h => h) fun _ _ h => h
  have hwait : Preserves (fun course' : Course => course'.sent = course.sent)
      (waitForExecuteReadyGate around readyTimeoutSec readyPollIntervalSec) := by
    refine preserves_bind hclock fun startTime => ?_
    refine preserves_bind (preserves_checkReadyGate _) fun gate => ?_
    refine preserves_ite (fun _ => preserves_bind hclock fun _ => preserves_pure _) fun _ => ?_
    exact preserves_pollReadyGate _ _ _ _ _ _ _
  exact (hwait course rfl).of_ok h

lemma crashes_iff {waited : ReadyWaitResult} {course : Course}
    (hwait : (waitForExecuteReadyGate around options.readyTimeoutSec
      options.readyPollIntervalSec).run site.course = .ok waited course) :
    Crashes around options site ↔ waited.readyGate.ready = true ∧
      ∃ e, around.runtime.navigations course.sent.length = .error e := by
  rw [Crashes, ← sent_of_wait hwait]
  refine and_congr_left fun _ => ⟨?_, fun hready => ⟨waited, course, hwait, hready⟩⟩
  rintro ⟨waited', course', hwait', hready⟩
  rw [hwait, EStateM.Result.ok.injEq] at hwait'
  exact hwait'.1 ▸ hready

lemma not_crashes_of_error {course : Course} {e : WmsError}
    (hwait : (waitForExecuteReadyGate around options.readyTimeoutSec
      options.readyPollIntervalSec).run site.course = .error e course) :
    ¬ Crashes around options site := by
  rintro ⟨⟨waited, course', hwait', -⟩, -⟩
  simp [hwait] at hwait'

lemma ends_navigateToPose_of_error {pose : Pose} {timeoutSec : Floating} {course : Course}
    {e : WmsError} {Q : NavigationResult → Course → Prop} {E : Course → Prop}
    (h : around.runtime.navigations course.sent.length = .error e) (he : ∀ course', E course') :
    Ends (navigateToPose around pose timeoutSec) course Q E := by
  simp only [navigateToPose, ends_bind, ends_get, ends_set, h, ends_orRaise_error]
  exact he _

lemma ends_navigateToPose_of_ok {pose : Pose} {timeoutSec : Floating} {course : Course}
    {navigation : NavigationResult} {Q : NavigationResult → Course → Prop} {E : Course → Prop}
    (h : around.runtime.navigations course.sent.length = .ok navigation)
    (hq : ∀ course', Q navigation course') :
    Ends (navigateToPose around pose timeoutSec) course Q E := by
  simp only [navigateToPose, ends_bind, ends_get, ends_set, h, ends_orRaise_ok]
  exact hq _

lemma exists_course_of_navigation (pose : Pose) (timeoutSec : Floating) {course : Course}
    {navigation : NavigationResult}
    (h : around.runtime.navigations course.sent.length = .ok navigation) : ∃ course',
      (navigateToPose around pose timeoutSec).run course = .ok navigation course' := by
  have hends : Ends (navigateToPose around pose timeoutSec) course
      (fun navigation' _ => navigation' = navigation) (fun _ => False) :=
    ends_navigateToPose_of_ok h fun _ => rfl
  obtain ⟨navigation', course', hrun, rfl⟩ := hends.run_ok
  exact ⟨course', hrun⟩

section Execution

variable {result : ExecutorResult} {pose : Pose} {apiBaseUrl : String}

def RunsOn (around : Surroundings) (options : ExecutorOptions) (start : Site) (id : ℕ)
    (finish : Site) : Prop :=
  statusOf finish id = some .running ↔ Crashes around options start

lemma ends_executeTask_runsOn (hfind : site.database.tasks.find? id = some row)
    (hpending : row.status = .pending) :
    Ends ((executeTask options result id pose).run (answer around)) site
      (fun _ site' => RunsOn around options site id site')
      (fun site' => RunsOn around options site id site') := by
  simp only [executeTask, Process.run_bind, run_awaitReadyGate, onCourse, ends_bind, ends_focus]
  cases hwait : (waitForExecuteReadyGate around options.readyTimeoutSec
      options.readyPollIntervalSec).run site.course with
  | error e course =>
    refine ends_of_error hwait (iff_of_false ?_ (not_crashes_of_error hwait))
    simp [statusOf, hfind, hpending]
  | ok waited course =>
    refine ends_of_ok hwait ?_
    simp only [RunsOn, crashes_iff hwait]
    have hfind' : ({ site with course := course } : Site).database.tasks.find? id = some row :=
      hfind
    by_cases hready : waited.readyGate.ready = false
    · rw [if_pos hready, Process.run_bind, ends_bind]
      refine ends_writeStatus hfind' .pending _ ?_
      rw [Process.run_pure, ends_pure]
      simp [statusOf_written hfind', hready]
    · rw [if_neg hready, Process.run_bind, ends_bind]
      refine ends_writeStatus hfind' .running dispatched ?_
      have hopen : waited.readyGate.ready = true := by simpa using hready
      simp only [Process.run_bind, run_sendGoal, onCourse, ends_bind, ends_focus, hopen, true_and]
      have hrunning : statusOf (Site.written around { site with course := course } id .running
          dispatched) id = some .running :=
        statusOf_written hfind' .running dispatched
      cases hnavigation : around.runtime.navigations course.sent.length with
      | error e =>
        refine ends_navigateToPose_of_error hnavigation fun course' => ?_
        exact iff_of_true hrunning ⟨e, rfl⟩
      | ok navigation =>
        refine ends_navigateToPose_of_ok hnavigation fun course' => ?_
        have hfind'' : ({ Site.written around { site with course := course } id .running
            dispatched with course := course' } : Site).database.tasks.find? id = some
            (row.withStatus .running (some dispatched) (around.utc site.stamped).timestamp) :=
          find?_written_self hfind'
        refine ends_writeStatus hfind'' (finalStatus navigation) _ ?_
        rw [Process.run_pure, ends_pure, statusOf_written hfind'']
        simp [finalStatus_ne_running]

lemma notSatisfied_filled (readyGate : ReadyGateResult) : Filled (notSatisfied readyGate) := by
  refine filled_iff.mpr ⟨'N', ?_, by decide⟩
  have htext : notSatisfied readyGate =
      "Nav2 ready gate not satisfied: " ++ readyGate.reason := rfl
  rw [htext, String.toList_append]
  simp

lemma filled_of_heard {status : TaskStatus} {reason : String}
    (h : (updateHttpTaskStatusOrFail apiBaseUrl result id status reason).heard (answer around)
      Request.granted site = true) : Filled reason := by
  by_contra hblank
  have hupdate := Process.heard_left h
  rw [Process.heard_attempt] at hupdate
  obtain ⟨response, site', hrun⟩ :=
    Process.answered_of_heard (fun _ => rfl) (Process.heard_left hupdate)
  have hends : Ends ((patchJson apiBaseUrl id (statusPayload status (some reason))).run
      (answer around)) site (fun _ _ => False) (fun _ => True) := by
    simp only [run_patchJson, nowTimestamp, onDatabase, respondTo, ends_bind, ends_get, ends_set,
      ends_pure, ends_focus, ends_mapError]
    exact ends_patchTaskStatusEndpoint_blank status hblank _ trivial
  exact hends.of_ok hrun

lemma run_updateHttpTaskStatusOrFail (hfind : site.database.tasks.find? id = some row)
    (hlegible : Legible row) (hfinite : row.finite = true) (status : TaskStatus) {reason : String}
    (hreason : Filled reason) :
    ((updateHttpTaskStatusOrFail apiBaseUrl result id status reason).run (answer around)).run
      site = .ok (.ok (Task.asRead (id, row.withStatus status (some (strip reason))
        (around.utc site.stamped).timestamp))) (site.written around id status (strip reason)) := by
  have hends : Ends ((updateHttpTaskStatusOrFail apiBaseUrl result id status reason).run
      (answer around)) site (fun updated site' => updated = .ok (Task.asRead (id,
        row.withStatus status (some (strip reason)) (around.utc site.stamped).timestamp)) ∧
        site' = site.written around id status (strip reason)) (fun _ => False) :=
    ends_updateHttpTaskStatusOrFail_legible hfind hlegible hfinite result status hreason ⟨rfl, rfl⟩
  obtain ⟨updated, site', hrun, rfl, rfl⟩ := hends.run_ok
  exact hrun

attribute [local irreducible] Ends in
lemma ends_executeHttpTask_runsOn (hfind : site.database.tasks.find? id = some row)
    (hpending : row.status = .pending) (hlegible : Legible row) (hfinite : row.finite = true)
    (hheard : (executeHttpTask apiBaseUrl options result id pose).heard (answer around)
      Request.granted site = true) :
    Ends ((executeHttpTask apiBaseUrl options result id pose).run (answer around)) site
      (fun _ site' => RunsOn around options site id site')
      (fun site' => RunsOn around options site id site') := by
  simp only [executeHttpTask, Process.run_bind, run_awaitReadyGate, onCourse, ends_bind, ends_focus]
  cases hwait : (waitForExecuteReadyGate around options.readyTimeoutSec
      options.readyPollIntervalSec).run site.course with
  | error e course =>
    refine ends_of_error hwait (iff_of_false ?_ (not_crashes_of_error hwait))
    simp [statusOf, hfind, hpending]
  | ok waited course =>
    refine ends_of_ok hwait ?_
    simp only [RunsOn, crashes_iff hwait]
    have hfind' : ({ site with course := course } : Site).database.tasks.find? id = some row :=
      hfind
    by_cases hready : waited.readyGate.ready = false
    · rw [if_pos hready, Process.run_bind, ends_bind]
      refine ends_of_ok (run_updateHttpTaskStatusOrFail hfind' hlegible hfinite .pending
        (notSatisfied_filled waited.readyGate)) ?_
      dsimp only
      rw [Process.run_pure, ends_pure]
      simp [statusOf_written hfind', hready]
    · rw [if_neg hready, Process.run_bind, ends_bind]
      have hopen : waited.readyGate.ready = true := by simpa using hready
      have hwaited : ((awaitReadyGate options.readyTimeoutSec options.readyPollIntervalSec).run
          (answer around)).run site = .ok waited { site with course := course } := by
        rw [run_awaitReadyGate]
        exact run_onCourse hwait
      have hheard' := Process.heard_right hheard hwaited
      rw [if_neg hready] at hheard'
      have hdispatched := Process.heard_right hheard'
        (run_updateHttpTaskStatusOrFail hfind' hlegible hfinite .running dispatched_plain.1)
      refine ends_of_ok (run_updateHttpTaskStatusOrFail hfind' hlegible hfinite .running
        dispatched_plain.1) ?_
      simp only [Process.run_bind, run_sendGoal, onCourse, ends_bind, ends_focus, hopen, true_and]
      have hrunning : statusOf (Site.written around { site with course := course } id .running
          (strip dispatched)) id = some .running :=
        statusOf_written hfind' .running (strip dispatched)
      cases hnavigation : around.runtime.navigations course.sent.length with
      | error e =>
        refine ends_navigateToPose_of_error hnavigation fun course' => ?_
        exact iff_of_true hrunning ⟨e, rfl⟩
      | ok navigation =>
        obtain ⟨course', hnavigate⟩ := exists_course_of_navigation pose
          options.navigationTimeoutSec hnavigation
        refine ends_of_ok hnavigate ?_
        have hfind'' : ({ Site.written around { site with course := course } id .running
            (strip dispatched) with course := course' } : Site).database.tasks.find? id = some
            (row.withStatus .running (some (strip dispatched))
              (around.utc site.stamped).timestamp) :=
          find?_written_self hfind'
        have hnavigated := Process.heard_right hdispatched
          (a := navigation) (t := { Site.written around { site with course := course } id .running
            (strip dispatched) with course := course' })
          (by rw [run_sendGoal]; exact run_onCourse hnavigate)
        have hfilled : Filled navigation.reason :=
          filled_of_heard (Process.heard_left hnavigated)
        refine ends_of_ok (run_updateHttpTaskStatusOrFail hfind''
          (hlegible.withStatus _ _ (timestamp_plain _).1) hfinite (finalStatus navigation)
          hfilled) ?_
        rw [Process.run_pure, ends_pure, statusOf_written hfind'']
        simp [finalStatus_ne_running]

end Execution

section Selection

variable {task : ReportedTask} {apiBaseUrl : String}

lemma exists_of_selects_database (h : Selects .database around site task) :
    ∃ next : Task, getNextPendingTask site.database.tasks = some next ∧ task = next.reported := by
  obtain ⟨site', hrun⟩ := h
  have hends : Ends (Queue.database.nextTask.run (answer around)) site
      (fun found _ => found = (getNextPendingTask site.database.tasks).map Task.reported)
      (fun _ => False) := by
    simp only [Queue.nextTask, Process.run_bind, run_fetchNextPendingTask, ends_bind, ends_get,
      ends_pure, Process.run_pure]
  have hfound := hends.of_ok hrun
  exact Option.map_eq_some_iff.mp hfound.symm |>.imp fun next h => ⟨h.1, h.2.symm⟩

lemma exists_of_selects_api (h : Selects (.api apiBaseUrl) around site task) :
    ((getNextPendingTaskViaHttp apiBaseUrl).run (answer around)).run site = .ok (some task) site ∧
      ∃ next : Task, site.database.tasks.find? next.1 = some next.2 ∧ next.2.status = .pending ∧
        Legible next.2 ∧ next.2.finite = true ∧ task = Task.asRead next := by
  obtain ⟨site', hrun⟩ := h
  obtain ⟨hsame, hfinite, hnext⟩ := run_getNextPendingTaskViaHttp hrun
  obtain ⟨next, hmem, hpending, hlegible, rfl⟩ := exists_of_nextPendingOf hnext
  exact ⟨hsame ▸ hrun, next, AutoTable.find?_of_mem hmem, hpending, hlegible,
    List.all_eq_true.mp hfinite next hmem, rfl⟩

lemma selects_database {next : Task} (h : getNextPendingTask site.database.tasks = some next) :
    Selects .database around site next.reported := by
  have hends : Ends (Queue.database.nextTask.run (answer around)) site
      (fun found _ => found = some next.reported) (fun _ => False) := by
    simp only [Queue.nextTask, Process.run_bind, run_fetchNextPendingTask, ends_bind, ends_get,
      ends_pure, Process.run_pure, h, Option.map_some]
  obtain ⟨found, site', hrun, rfl⟩ := hends.run_ok
  exact ⟨site', hrun⟩

lemma selects_api
    (hfinite : (listTasks site.database.tasks).all (fun task => task.2.finite) = true)
    (hnext : nextPendingOf (tasksPayload site.database.tasks) = .ok (some task)) :
    Selects (.api apiBaseUrl) around site task := by
  have hends : Ends ((getNextPendingTaskViaHttp apiBaseUrl).run (answer around)) site
      (fun next _ => next = some task) (fun _ => False) :=
    ends_getNextPendingTaskViaHttp_of_ok hfinite hnext rfl
  obtain ⟨next, site', hrun, rfl⟩ := hends.run_ok
  exact ⟨site', hrun⟩

lemma leftRunning_database_iff (hexecute : options.execute = true)
    (hselects : Selects .database around site task) :
    LeftRunning (final ((Queue.database.runOnce options).run (answer around)) site) task ↔
      NavigationCrashes .database around options site task := by
  obtain ⟨next, hnext, rfl⟩ := exists_of_selects_database hselects
  obtain ⟨hfind, hpending⟩ := getNextPendingTask_find hnext
  have hid : (Task.reported next).1.toNat = next.1 := Int.toNat_natCast next.1
  rw [LeftRunning, hid]
  refine Ends.final (P := fun site' => statusOf site' next.1 = some .running ↔ _) ?_
  rw [Queue.runOnce, runExecutorOnce, if_neg (by simp), Process.run_bind, run_fetchNextPendingTask]
  simp only [ends_bind, ends_get, ends_pure]
  rw [hnext]
  dsimp only
  simp only [Process.run_bind, Process.run_attempt, run_readTaskPoints, ends_bind]
  refine ends_readTaskPoints.mono ?_ (fun _ h => h.elim)
  rintro file site' ⟨rfl, hsame⟩
  rw [hsame]
  cases hresolve : resolveTargetPose next.2.targetName around.file with
  | error e =>
    have hgoal : ¬ NavigationCrashes .database around options site next.reported := by
      rintro ⟨⟨pose, hpose⟩, -⟩
      simp [Queue.goal, Task.reported, hresolve] at hpose
    dsimp only
    split_ifs
    · rw [Process.run_bind, ends_bind]
      refine ends_writeStatus hfind .failed _ (iff_of_false ?_ hgoal)
      simp [statusOf_written hfind]
    · refine iff_of_false ?_ hgoal
      simp [statusOf, hfind, hpending]
  | ok found =>
    obtain ⟨resolved, pose⟩ := found
    have hgoal : NavigationCrashes .database around options site next.reported ↔
        Crashes around options site := by
      refine and_iff_right ⟨pose, ?_⟩
      simp [Queue.goal, Task.reported, hresolve]
    dsimp only
    rw [if_pos hexecute, hgoal]
    exact ends_executeTask_runsOn hfind hpending

lemma leftRunning_api_iff (hexecute : options.execute = true)
    (hwrites : WritesSucceed (.api apiBaseUrl) around options site)
    (hselects : Selects (.api apiBaseUrl) around site task) :
    LeftRunning (final (((Queue.api apiBaseUrl).runOnce options).run (answer around)) site) task ↔
      NavigationCrashes (.api apiBaseUrl) around options site task := by
  obtain ⟨hrun, next, hfind, hpending, hlegible, hfinite, rfl⟩ := exists_of_selects_api hselects
  have hid : (Task.asRead next).1.toNat = next.1 := Int.toNat_natCast next.1
  have hgoal : NavigationCrashes (.api apiBaseUrl) around options site (Task.asRead next) ↔
      Crashes around options site := and_iff_right ⟨_, rfl⟩
  have hfetched : ((Process.attempt (getNextPendingTaskViaHttp apiBaseUrl)).run
      (answer around)).run site = .ok (.ok (some (Task.asRead next))) site := by
    rw [Process.run_attempt, run_attempt, hrun]
  have hheard := Process.heard_right hwrites hfetched
  dsimp only at hheard
  rw [if_pos hexecute] at hheard
  rw [LeftRunning, hid, hgoal]
  refine Ends.final (P := fun site' => statusOf site' next.1 = some .running ↔ _) ?_
  rw [Queue.runOnce, runHttpExecutorOnce, Process.run_bind, ends_bind]
  refine ends_of_ok hfetched ?_
  dsimp only
  rw [if_pos hexecute]
  exact ends_executeHttpTask_runsOn hfind hpending hlegible hfinite hheard

end Selection

/-- With the goal sent, only a runtime that answers keeps the task from running on. -/
theorem selected_task_left_running_iff (queue : Queue) (around : Surroundings)
    (options : ExecutorOptions) (site : Site) (task : ReportedTask)
    (hexecute : options.execute = true) (hwrites : WritesSucceed queue around options site)
    (hselects : Selects queue around site task) :
    ¬ LeftRunning (final ((queue.runOnce options).run (answer around)) site) task ↔
      ¬ NavigationCrashes queue around options site task := by
  cases queue with
  | database => rw [leftRunning_database_iff hexecute hselects]
  | api apiBaseUrl => rw [leftRunning_api_iff hexecute hwrites hselects]

def stationQueue : Site where database := { tasks := stationTable }

theorem selected_task_left_running_iff_station :
    ¬ LeftRunning (final (((Queue.api "http://127.0.0.1:8000").runOnce {}).run
        (answer (willingSurroundings (.integer 1)))) stationQueue) (1, stationRow) ↔
      ¬ NavigationCrashes (.api "http://127.0.0.1:8000") (willingSurroundings (.integer 1)) {}
        stationQueue (1, stationRow) :=
  selected_task_left_running_iff (.api "http://127.0.0.1:8000") (willingSurroundings (.integer 1))
    {} stationQueue (1, stationRow) rfl (by decide +kernel)
    (selects_api (by decide +kernel) (by decide +kernel))

def crashingRuntime : ExecutorRuntime where
  gates _ := .ok ⟨true, "ready gate satisfied"⟩
  navigations _ := .error ⟨.runtimeError, "context is not valid"⟩

def crashingSurroundings : Surroundings :=
  { willingSurroundings (.integer 1) with runtime := crashingRuntime }

theorem selected_task_is_left_running :
    ¬ (∀ around options site task, options.execute = true →
        WritesSucceed .database around options site → Selects .database around site task →
        ¬ LeftRunning (final ((Queue.database.runOnce options).run (answer around)) site) task) ∧
      ¬ (∀ apiBaseUrl around options site task, options.execute = true →
        WritesSucceed (.api apiBaseUrl) around options site →
        Selects (.api apiBaseUrl) around site task →
        ¬ LeftRunning (final (((Queue.api apiBaseUrl).runOnce options).run (answer around)) site)
          task) := by
  constructor
  · intro h
    have hnext : getNextPendingTask stationQueue.database.tasks = some (1, stationRow) := by
      decide +kernel
    refine h crashingSurroundings {} stationQueue _ rfl ?_ (selects_database hnext) ?_
    · decide +kernel
    · decide +kernel
  · intro h
    refine h "http://127.0.0.1:8000" crashingSurroundings {} stationQueue (1, stationRow) rfl ?_
      (selects_api ?_ ?_) ?_
    · decide +kernel
    · decide +kernel
    · decide +kernel
    · decide +kernel

end Wms
