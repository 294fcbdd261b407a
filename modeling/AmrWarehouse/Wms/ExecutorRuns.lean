import AmrWarehouse.Wms.Executor
import AmrWarehouse.Wms.PendingTasks
import AmrWarehouse.Wms.ReadyWait

/-! What one run of the executor on the database does, when it runs alone in execute mode. -/

namespace Wms

open Library

variable {around : Surroundings} {site site' : Site}

def runOnce (around : Surroundings) (options : ExecutorOptions) : Call Site ExecutorResult :=
  (runExecutorOnce none options).run (answer around)

@[simp] lemma run_fetchNextPendingTask : fetchNextPendingTask.run (answer around) =
    (do return getNextPendingTask (← get).database.tasks) :=
  Process.run_perform _ _

@[simp] lemma run_readTaskPoints : readTaskPoints.run (answer around) = orRaise around.file :=
  Process.run_perform _ _

@[simp] lemma run_writeStatus (id : ℕ) (status : TaskStatus) (reason : String) :
    (writeStatus id status reason).run (answer around) = (do
      let now ← nowTimestamp around
      onDatabase (updateTaskStatus id status.value (some reason) now)) :=
  Process.run_perform _ _

@[simp] lemma run_awaitReadyGate (readyTimeoutSec readyPollIntervalSec : ℚ) :
    (awaitReadyGate readyTimeoutSec readyPollIntervalSec).run (answer around) =
      onCourse (waitForExecuteReadyGate around readyTimeoutSec readyPollIntervalSec) :=
  Process.run_perform _ _

@[simp] lemma run_sendGoal (pose : Pose) (timeoutSec : Floating) :
    (sendGoal pose timeoutSec).run (answer around) =
      onCourse (navigateToPose around pose timeoutSec) :=
  Process.run_perform _ _

section Steps

variable {Q : Task → Site → Prop}

def Site.written (around : Surroundings) (site : Site) (id : ℕ) (status : TaskStatus)
    (reason : String) : Site :=
  { site with
    database :=
      ⟨site.database.tasks.update id
          (TaskRow.withStatus status (some reason) (around.utc site.stamped).timestamp),
        site.database.written ++ [(id, status)]⟩
    stamped := site.stamped + 1 }

lemma find?_written (id other : ℕ) (status : TaskStatus) (reason : String) :
    (site.written around id status reason).database.tasks.find? other =
      if other = id then (site.database.tasks.find? id).map
        (TaskRow.withStatus status (some reason) (around.utc site.stamped).timestamp)
      else site.database.tasks.find? other :=
  AutoTable.find?_update _ _ _ _

lemma find?_written_self {id : ℕ} {row : TaskRow}
    (h : site.database.tasks.find? id = some row) {status : TaskStatus} {reason : String} :
    (site.written around id status reason).database.tasks.find? id =
      some (row.withStatus status (some reason) (around.utc site.stamped).timestamp) := by
  rw [find?_written, if_pos rfl, h]
  rfl

lemma ends_writeStatus {E : Site → Prop} {id : ℕ} {row : TaskRow}
    (h : site.database.tasks.find? id = some row) (status : TaskStatus) (reason : String)
    (hq : Q (id, row.withStatus status (some reason) (around.utc site.stamped).timestamp)
      (site.written around id status reason)) :
    Ends ((writeStatus id status reason).run (answer around)) site Q E := by
  simp only [run_writeStatus, nowTimestamp, onDatabase, ends_bind, ends_get, ends_set, ends_pure,
    ends_focus]
  exact ends_of_ok (run_updateTaskStatus h status _ _) hq

end Steps

inductive Once (around : Surroundings) (options : ExecutorOptions) (site : Site) :
    ExecutorResult → Site → Prop
  | idle {result} (hpending : pendingTasks site.database.tasks = [])
      (hbefore : result.taskBefore = none) (houtcome : result.outcome = some .noPendingTask)
      (hsent : result.goalSent = false) (hexit : result.exitCode = 0) :
      Once around options site result site
  | refused {result task rest e} (hpending : pendingTasks site.database.tasks = task :: rest)
      (hresolve : resolveTargetPose task.2.targetName around.file = .error e)
      (hbefore : result.taskBefore = some (Task.reported task))
      (houtcome : result.outcome = some .invalidTarget) (hsent : result.goalSent = false)
      (hexit : result.exitCode = 1) :
      Once around options site result
        (site.written around task.1 .failed s!"Target resolution failed: {e.text}")
  | notReady {result task rest resolved pose waited course}
      (hpending : pendingTasks site.database.tasks = task :: rest)
      (hresolve : resolveTargetPose task.2.targetName around.file = .ok (resolved, pose))
      (hwait : (waitForExecuteReadyGate around options.readyTimeoutSec
        options.readyPollIntervalSec).run site.course = .ok waited course)
      (hready : waited.readyGate.ready = false)
      (hbefore : result.taskBefore = some (Task.reported task))
      (houtcome : result.outcome = some .executeNotReadyTimeout)
      (hsent : result.goalSent = false) (hexit : result.exitCode = 0) :
      Once around options site result
        (Site.written around { site with course := course } task.1 .pending
          (notSatisfied waited.readyGate))
  | navigated {result task rest resolved pose waited course navigation course'}
      (hpending : pendingTasks site.database.tasks = task :: rest)
      (hresolve : resolveTargetPose task.2.targetName around.file = .ok (resolved, pose))
      (hwait : (waitForExecuteReadyGate around options.readyTimeoutSec
        options.readyPollIntervalSec).run site.course = .ok waited course)
      (hready : waited.readyGate.ready = true)
      (hnavigate : (navigateToPose around pose options.navigationTimeoutSec).run course =
        .ok navigation course')
      (hbefore : result.taskBefore = some (Task.reported task))
      (houtcome : result.outcome = some (finalOutcome navigation))
      (hsent : result.goalSent = true)
      (hexit : result.exitCode = if navigation.succeeded then 0 else 1) :
      Once around options site result
        (Site.written around
          { Site.written around { site with course := course } task.1 .running dispatched with
            course := course' } task.1 (finalStatus navigation) navigation.reason)

lemma run_navigateToPose {pose : Pose} {timeoutSec : Floating} {course course' : Course}
    {navigation : NavigationResult}
    (h : (navigateToPose around pose timeoutSec).run course = .ok navigation course') :
    around.runtime.navigations course.sent.length = .ok navigation ∧
      course'.sent = course.sent ++ [pose] := by
  have hends : Ends (navigateToPose around pose timeoutSec) course
      (fun navigation course' => around.runtime.navigations course.sent.length = .ok navigation ∧
        course'.sent = course.sent ++ [pose]) (fun _ => True) := by
    simp only [navigateToPose, ends_bind, ends_get, ends_set]
    cases around.runtime.navigations course.sent.length with
    | ok navigation => exact ⟨rfl, rfl⟩
    | error e => trivial
  exact hends.of_ok h

lemma exists_run_navigateToPose (hruntime : around.runtime.Responds) (pose : Pose)
    (timeoutSec : Floating) (course : Course) : ∃ navigation course',
      (navigateToPose around pose timeoutSec).run course = .ok navigation course' := by
  have hends : Ends (navigateToPose around pose timeoutSec) course (fun _ _ => True)
      (fun _ => False) := by
    simp only [navigateToPose, ends_bind, ends_get, ends_set]
    obtain ⟨navigation, hnavigation⟩ := hruntime.2 course.sent.length
    rw [hnavigation]
    trivial
  obtain ⟨navigation, course', hrun, -⟩ := hends.run_ok
  exact ⟨navigation, course', hrun⟩

def Caught (requested : String) (file : Except WmsError TaskPoints) : Prop :=
  ∀ e, resolveTargetPose requested file = .error e → e.kind = .keyError ∨ e.kind = .valueError

lemma ends_executeTask (hruntime : around.runtime.Responds) {options : ExecutorOptions}
    {result : ExecutorResult} {task : Task} {rest : List Task} {resolved : String} {pose : Pose}
    (hpending : pendingTasks site.database.tasks = task :: rest)
    (hresolve : resolveTargetPose task.2.targetName around.file = .ok (resolved, pose))
    (hbefore : result.taskBefore = some (Task.reported task)) (hsent : result.goalSent = false)
    (hexit : result.exitCode = 0) :
    Ends ((executeTask options result task.1 pose).run (answer around)) site
      (fun result' site' => Once around options site result' site') (fun _ => False) := by
  have hfind : site.database.tasks.find? task.1 = some task.2 :=
    (getNextPendingTask_find (getNextPendingTask_eq_some.mpr ⟨rest, hpending⟩)).1
  obtain ⟨waited, course, hwait, -⟩ := exists_run_waitForExecuteReadyGate hruntime
    options.readyTimeoutSec options.readyPollIntervalSec site.course
  simp only [executeTask, Process.run_bind, run_awaitReadyGate, onCourse, ends_bind, ends_focus]
  refine ends_of_ok hwait ?_
  have hfind' : ({ site with course := course } : Site).database.tasks.find? task.1 =
      some task.2 := hfind
  by_cases hready : waited.readyGate.ready = false
  · rw [if_pos hready, Process.run_bind, ends_bind]
    refine ends_writeStatus hfind' .pending (notSatisfied waited.readyGate) ?_
    exact .notReady hpending hresolve hwait hready hbefore rfl hsent hexit
  · rw [if_neg hready, Process.run_bind, ends_bind]
    refine ends_writeStatus hfind' .running dispatched ?_
    simp only [Process.run_bind, run_sendGoal, onCourse, ends_bind, ends_focus]
    obtain ⟨navigation, course', hnavigate⟩ := exists_run_navigateToPose hruntime pose
      options.navigationTimeoutSec course
    refine ends_of_ok hnavigate ?_
    have hrunning : ({ Site.written around { site with course := course } task.1 .running
        dispatched with course := course' } : Site).database.tasks.find? task.1 =
        some (task.2.withStatus .running (some dispatched) (around.utc site.stamped).timestamp) :=
      find?_written_self hfind'
    refine ends_writeStatus hrunning (finalStatus navigation) navigation.reason ?_
    refine .navigated hpending hresolve hwait (by simpa using hready) hnavigate hbefore rfl rfl ?_
    rw [hexit]

lemma ends_readTaskPoints : Ends (attempt (orRaise around.file : Call Site TaskPoints)) site
    (fun file site' => file = around.file ∧ site' = site) (fun _ => False) := by
  cases hfile : around.file with
  | ok points => exact ⟨rfl, rfl⟩
  | error e => exact ⟨rfl, rfl⟩

lemma ends_runOnce (hruntime : around.runtime.Responds) {options : ExecutorOptions}
    (hexecute : options.execute = true)
    (hcaught : ∀ task rest, pendingTasks site.database.tasks = task :: rest →
      Caught task.2.targetName around.file) :
    Ends (runOnce around options) site (fun result site' => Once around options site result site')
      (fun _ => False) := by
  rw [runOnce, runExecutorOnce, if_neg (by simp), Process.run_bind, run_fetchNextPendingTask]
  simp only [ends_bind, ends_get, ends_pure]
  cases hpending : pendingTasks site.database.tasks with
  | nil =>
    rw [getNextPendingTask_eq_none.mpr hpending]
    exact .idle hpending rfl rfl rfl rfl
  | cons task rest =>
    rw [getNextPendingTask_eq_some.mpr ⟨rest, hpending⟩]
    have hfind : site.database.tasks.find? task.1 = some task.2 :=
      (getNextPendingTask_find (getNextPendingTask_eq_some.mpr ⟨rest, hpending⟩)).1
    dsimp only
    simp only [Process.run_bind, Process.run_attempt, run_readTaskPoints, ends_bind]
    refine ends_readTaskPoints.mono ?_ (fun _ h => h)
    rintro file _ ⟨rfl, rfl⟩
    cases hresolve : resolveTargetPose task.2.targetName around.file with
    | error e =>
      dsimp only
      rw [if_pos (hcaught task rest hpending e hresolve), Process.run_bind, ends_bind]
      refine ends_writeStatus hfind .failed _ ?_
      exact .refused hpending hresolve rfl rfl rfl rfl
    | ok found =>
      obtain ⟨resolved, pose⟩ := found
      dsimp only
      rw [if_pos hexecute]
      exact ends_executeTask hruntime hpending hresolve rfl rfl rfl

lemma ends_runOnce_uncaught {options : ExecutorOptions} {task : Task} {rest : List Task}
    (hpending : pendingTasks site.database.tasks = task :: rest)
    (h : ¬ Caught task.2.targetName around.file) :
    Ends (runOnce around options) site (fun _ _ => False) (fun _ => True) := by
  rw [Caught] at h
  push Not at h
  obtain ⟨e, hresolve, hkey, hvalue⟩ := h
  rw [runOnce, runExecutorOnce, if_neg (by simp), Process.run_bind, run_fetchNextPendingTask]
  simp only [ends_bind, ends_get, ends_pure]
  rw [getNextPendingTask_eq_some.mpr ⟨rest, hpending⟩]
  dsimp only
  simp only [Process.run_bind, Process.run_attempt, run_readTaskPoints, ends_bind]
  refine ends_readTaskPoints.mono ?_ (fun _ h => h.elim)
  rintro file _ ⟨rfl, rfl⟩
  rw [hresolve]
  dsimp only
  rw [if_neg (not_or.mpr ⟨hkey, hvalue⟩)]
  trivial

def willingRuntime : ExecutorRuntime where
  gates _ := .ok ⟨true, "ready gate satisfied"⟩
  navigations _ := .ok ⟨true, "succeeded", "NavigateToPose result: SUCCEEDED."⟩

lemma willingRuntime_responds : willingRuntime.Responds :=
  ⟨fun _ => ⟨_, rfl⟩, fun _ => ⟨_, rfl⟩⟩

def stationPoint (x : Scalar) : Dict String Scalar :=
  .ofList
    [("frame_id", .text "map"), ("x", x), ("y", .integer 2), ("yaw", .decimal (.finite 0) "0.0")]

def stationPoints (x : Scalar) : TaskPoints := .ofList [("station_a", stationPoint x)]

def willingSurroundings (x : Scalar) : Surroundings where
  file := .ok (stationPoints x)
  runtime := willingRuntime
  utc second := ⟨2026, 5, 13, 9, 0, second⟩
  drift _ := 0

def stationRow : TaskRow where
  taskName := "mock-task-station_a"
  targetName := "station_a"
  frameId := "map"
  x := .finite 1
  y := .finite 2
  yaw := .finite 0
  status := .pending
  statusReason := none
  createdAt := "2026-05-13T09:00:00Z"
  updatedAt := "2026-05-13T09:00:00Z"

def stationTable : TaskTable := AutoTable.empty.insert stationRow

end Wms
