import AmrWarehouse.Wms.HttpCalls

/-! The executor does the same over the API as on the database. -/

namespace Wms

open Library

variable {file : Except WmsError TaskPoints} {around : Surroundings} {site site' : Site}

section Payload

lemma Posted.legible {row : TaskRow} (h : Posted file row) : Legible row :=
  ⟨h.named.1, h.target.1, h.frame, h.created.1, h.updated.1⟩

lemma Posted.asRead_eq {row : TaskRow} (h : Posted file row) : row.asRead = row := by
  have hname : strip row.taskName = row.taskName := h.named.2
  have htarget : strip row.targetName = row.targetName := h.target.2
  have hcreated : strip row.createdAt = row.createdAt := h.created.2
  have hupdated : strip row.updatedAt = row.updatedAt := h.updated.2
  rw [TaskRow.asRead, hname, htarget, hcreated, hupdated]

lemma nextPendingOf_tasks {table : TaskTable} (h : PostedRows file table) :
    nextPendingOf (tasksPayload table) =
      .ok ((getNextPendingTask table).map Task.reported) := by
  rw [nextPendingOf_of_legible (fun task htask _ => (h task htask).legible)
    fun task htask => (h task htask).created.2]
  cases hnext : getNextPendingTask table with
  | none => rfl
  | some task =>
    have hmem := AutoTable.mem_of_find? (getNextPendingTask_find hnext).1
    rw [Option.map_some, Option.map_some, Task.asRead, (h task hmem).asRead_eq]
    rfl

end Payload

def FinitePoints (file : Except WmsError TaskPoints) : Prop :=
  ∀ requested resolved pose, resolveTargetPose requested file = .ok (resolved, pose) →
    pose.x.isFinite = true ∧ pose.y.isFinite = true ∧ pose.yaw.isFinite = true

def ExecutorRuntime.SpeaksPlainly (runtime : ExecutorRuntime) : Prop :=
  (∀ n gate, runtime.gates n = .ok gate → Plain gate.reason) ∧
    ∀ n navigation, runtime.navigations n = .ok navigation → Plain navigation.reason

lemma notSatisfied_plain {gate : ReadyGateResult} (h : Plain gate.reason) :
    Plain (notSatisfied gate) := by
  have hne : gate.reason ≠ "" := by
    intro hempty
    exact h.1 (by rw [h.2, hempty])
  have htext : notSatisfied gate = "Nav2 ready gate not satisfied: " ++ gate.reason := rfl
  have htrimmed : Trimmed (notSatisfied gate) := by
    rw [htext]
    refine trimmed_append (by decide) ?_ h.2 hne
    intro c hc
    obtain rfl : 'N' = c := by simpa using hc
    decide
  refine ⟨filled_of_trimmed htrimmed ?_, htrimmed⟩
  rw [htext]
  intro hempty
  have hlist := congrArg String.toList hempty
  simp at hlist

lemma Posted.finite {row : TaskRow} (h : Posted file row) (hfinite : FinitePoints file) :
    row.finite = true := by
  obtain ⟨hx, hy, hyaw⟩ := hfinite _ _ _ h.resolved
  simp [TaskRow.finite, hx, hy, hyaw]

section Api

variable {apiBaseUrl : String}

lemma ends_getNextPendingTaskViaHttp (h : PostedRows file site.database.tasks)
    (hfinite : FinitePoints file) {Q : Option ReportedTask → Site → Prop} {E : Site → Prop}
    (hq : Q ((getNextPendingTask site.database.tasks).map Task.reported) site) :
    Ends ((getNextPendingTaskViaHttp apiBaseUrl).run (answer around)) site Q E := by
  have hall : (listTasks site.database.tasks).all (fun task => task.2.finite) = true := by
    rw [List.all_eq_true]
    intro task htask
    exact (h task htask).finite hfinite
  exact ends_getNextPendingTaskViaHttp_of_ok hall (nextPendingOf_tasks h) hq

lemma ends_updateHttpTaskStatusOrFail {id : ℕ} {row : TaskRow}
    (hfind : site.database.tasks.find? id = some row) (hposted : Posted file row)
    (hfinite : FinitePoints file) (result : ExecutorResult) (status : TaskStatus) {reason : String}
    (hreason : Plain reason) {Q : Except ExecutorResult ReportedTask → Site → Prop}
    {E : Site → Prop}
    (hq : Q (.ok (id, row.withStatus status (some reason) (around.utc site.stamped).timestamp))
      (site.written around id status reason)) :
    Ends ((updateHttpTaskStatusOrFail apiBaseUrl result id status reason).run (answer around))
      site Q E := by
  have htrimmed : strip reason = reason := hreason.2
  have hrow := (hposted.withStatus status (some reason) (around.utc site.stamped)).asRead_eq
  refine ends_updateHttpTaskStatusOrFail_legible hfind hposted.legible (hposted.finite hfinite)
    result status hreason.1 ?_
  rw [htrimmed, Task.asRead, hrow]
  exact hq

end Api

section Execution

variable {apiBaseUrl : String} {options : ExecutorOptions} {result : ExecutorResult} {task : Task}
  {rest : List Task}

attribute [local irreducible] Ends in
lemma ends_executeHttpTask (hruntime : around.runtime.Responds)
    (hplain : around.runtime.SpeaksPlainly) (hposted : PostedRows around.file site.database.tasks)
    (hfinite : FinitePoints around.file)
    (hpending : pendingTasks site.database.tasks = task :: rest)
    (hbefore : result.taskBefore = some (Task.reported task)) (hsent : result.goalSent = false)
    (hexit : result.exitCode = 0) :
    Ends ((executeHttpTask apiBaseUrl options result task.1
        ⟨task.2.frameId, task.2.x, task.2.y, task.2.yaw⟩).run (answer around)) site
      (fun result' site' => Once around options site result' site') (fun _ => False) := by
  have hnext := getNextPendingTask_eq_some.mpr ⟨rest, hpending⟩
  have hrow : Posted around.file task.2 :=
    hposted task (AutoTable.mem_of_find? (getNextPendingTask_find hnext).1)
  obtain ⟨waited, course, hwait, -, -, n, hgate⟩ := exists_run_waitForExecuteReadyGate hruntime
    options.readyTimeoutSec options.readyPollIntervalSec site.course
  simp only [executeHttpTask, Process.run_bind, run_awaitReadyGate, onCourse, ends_bind, ends_focus]
  refine ends_of_ok hwait ?_
  have hfind : ({ site with course := course } : Site).database.tasks.find? task.1 =
      some task.2 := (getNextPendingTask_find hnext).1
  by_cases hready : waited.readyGate.ready = false
  · rw [if_pos hready, Process.run_bind, ends_bind]
    refine ends_updateHttpTaskStatusOrFail hfind hrow hfinite _ .pending
      (notSatisfied_plain (hplain.1 n _ hgate)) ?_
    dsimp only
    rw [Process.run_pure, ends_pure]
    exact .notReady hpending hrow.resolved hwait hready hbefore rfl hsent hexit
  · rw [if_neg hready, Process.run_bind, ends_bind]
    refine ends_updateHttpTaskStatusOrFail hfind hrow hfinite _ .running dispatched_plain ?_
    simp only [Process.run_bind, run_sendGoal, onCourse, ends_bind, ends_focus]
    obtain ⟨navigation, course', hnavigate⟩ := exists_run_navigateToPose hruntime
      ⟨task.2.frameId, task.2.x, task.2.y, task.2.yaw⟩ options.navigationTimeoutSec course
    refine ends_of_ok hnavigate ?_
    have hrunning : ({ Site.written around { site with course := course } task.1 .running
        dispatched with course := course' } : Site).database.tasks.find? task.1 =
        some (task.2.withStatus .running (some dispatched) (around.utc site.stamped).timestamp) :=
      find?_written_self hfind
    have hposted' := hrow.withStatus .running (some dispatched) (around.utc site.stamped)
    have hreason := hplain.2 _ _ (run_navigateToPose hnavigate).1
    refine ends_updateHttpTaskStatusOrFail hrunning hposted' hfinite _ (finalStatus navigation)
      hreason ?_
    dsimp only
    rw [Process.run_pure, ends_pure]
    refine .navigated hpending hrow.resolved hwait (by simpa using hready) hnavigate hbefore rfl rfl
      ?_
    rw [hexit]

lemma ends_runHttpExecutorOnce (hruntime : around.runtime.Responds)
    (hplain : around.runtime.SpeaksPlainly) (hposted : PostedRows around.file site.database.tasks)
    (hfinite : FinitePoints around.file) (hexecute : options.execute = true) :
    Ends ((runHttpExecutorOnce apiBaseUrl options).run (answer around)) site
      (fun result site' => Once around options site result site') (fun _ => False) := by
  simp only [runHttpExecutorOnce, Process.run_bind, Process.run_attempt, ends_bind]
  apply ends_attempt_of_ok
  apply ends_getNextPendingTaskViaHttp hposted hfinite
  cases hpending : pendingTasks site.database.tasks with
  | nil =>
    rw [getNextPendingTask_eq_none.mpr hpending]
    exact .idle hpending rfl rfl rfl rfl
  | cons task rest =>
    rw [getNextPendingTask_eq_some.mpr ⟨rest, hpending⟩]
    rw [Option.map_some]
    dsimp only
    rw [if_pos hexecute]
    exact ends_executeHttpTask hruntime hplain hposted hfinite hpending rfl rfl rfl

end Execution

section Agreement

def Task.undated (task : Task) : Task := (task.1, { task.2 with updatedAt := "" })

def SameButUpdates (table table' : TaskTable) : Prop :=
  table.rows.map Task.undated = table'.rows.map Task.undated

lemma SameButUpdates.update {table table' : TaskTable} (h : SameButUpdates table table') (id : ℕ)
    (status : TaskStatus) (reason : Option String) (updatedAt updatedAt' : String) :
    SameButUpdates (table.update id (TaskRow.withStatus status reason updatedAt))
      (table'.update id (TaskRow.withStatus status reason updatedAt')) := by
  have hrow : ∀ at' : String, Task.undated ∘ AutoTable.updateRow id
      (TaskRow.withStatus status reason at') =
      AutoTable.updateRow id (TaskRow.withStatus status reason "") ∘ Task.undated := by
    intro at'
    funext task
    by_cases hid : task.1 = id <;>
      simp [Function.comp_apply, AutoTable.updateRow, Task.undated, TaskRow.withStatus, hid]
  rw [SameButUpdates] at h ⊢
  rw [AutoTable.update, AutoTable.update, List.map_map, List.map_map, hrow, hrow, ← List.map_map,
    ← List.map_map, h]

structure Agree (start start' finish finish' : Site) (result result' : ExecutorResult) : Prop where
  task : result.taskBefore = result'.taskBefore
  outcome : result.outcome = result'.outcome
  goalSent : result.goalSent = result'.goalSent
  exitCode : result.exitCode = result'.exitCode
  course : finish.course = finish'.course
  goals : finish.course.sent = start.course.sent ∨
    ∃ pose, finish.course.sent = start.course.sent ++ [pose]
  statuses : ∃ writes, finish.database.written = start.database.written ++ writes ∧
    finish'.database.written = start'.database.written ++ writes
  tables : SameButUpdates finish.database.tasks finish'.database.tasks

lemma Site.written_sameButUpdates {start start' : Site}
    (h : SameButUpdates start.database.tasks start'.database.tasks) (id : ℕ) (status : TaskStatus)
    (reason : String) : SameButUpdates (start.written around id status reason).database.tasks
      (start'.written around id status reason).database.tasks :=
  h.update id status (some reason) _ _

variable {start start' finish finish' : Site} {options : ExecutorOptions}
  {result result' : ExecutorResult}

lemma Once.pending (h : Once around options start result finish) :
    result.taskBefore = (getNextPendingTask start.database.tasks).map Task.reported := by
  cases h with
  | idle hpending hbefore => rw [hbefore, getNextPendingTask_eq_none.mpr hpending, Option.map_none]
  | refused hpending _ hbefore | notReady hpending _ _ _ hbefore
  | navigated hpending _ _ _ _ hbefore =>
    rw [hbefore, getNextPendingTask_eq_some.mpr ⟨_, hpending⟩, Option.map_some]

lemma Once.agree (hruntime : around.runtime.Responds)
    (htables : start'.database.tasks = start.database.tasks)
    (hcourse : start'.course = start.course) (h : Once around options start result finish)
    (h' : Once around options start' result' finish') :
    Agree start start' finish finish' result result' := by
  have htask : result.taskBefore = result'.taskBefore := by rw [h.pending, h'.pending, htables]
  have hsame : SameButUpdates start.database.tasks start'.database.tasks := by
    rw [htables]
    rfl
  have hhead : ∀ {task task' : Task} {rest rest'},
      pendingTasks start.database.tasks = task :: rest →
      pendingTasks start'.database.tasks = task' :: rest' → task' = task := by
    intro task task' rest rest' hpending hpending'
    rw [htables, hpending, List.cons.injEq] at hpending'
    exact hpending'.1.symm
  cases h with
  | idle hpending hbefore houtcome hsent hexit =>
    cases h' with
    | idle hpending' hbefore' houtcome' hsent' hexit' =>
      exact ⟨htask, houtcome.trans houtcome'.symm, hsent.trans hsent'.symm,
        hexit.trans hexit'.symm, hcourse.symm, Or.inl rfl, ⟨[], by simp, by simp⟩, hsame⟩
    | _ hpending' => simp [htables, hpending] at hpending'
  | refused hpending hresolve hbefore houtcome hsent hexit =>
    cases h' with
    | idle hpending' => simp [htables, hpending] at hpending'
    | refused hpending' hresolve' hbefore' houtcome' hsent' hexit' =>
      obtain rfl := hhead hpending hpending'
      obtain rfl := Except.error.inj (hresolve.symm.trans hresolve')
      exact ⟨htask, houtcome.trans houtcome'.symm, hsent.trans hsent'.symm,
        hexit.trans hexit'.symm, hcourse.symm, Or.inl rfl, ⟨_, rfl, rfl⟩,
        Site.written_sameButUpdates hsame _ _ _⟩
    | notReady hpending' hresolve' | navigated hpending' hresolve' =>
      obtain rfl := hhead hpending hpending'
      simp [hresolve] at hresolve'
  | notReady hpending hresolve hwait hready hbefore houtcome hsent hexit =>
    cases h' with
    | idle hpending' => simp [htables, hpending] at hpending'
    | refused hpending' hresolve' =>
      obtain rfl := hhead hpending hpending'
      simp [hresolve] at hresolve'
    | notReady hpending' hresolve' hwait' hready' hbefore' houtcome' hsent' hexit' =>
      obtain rfl := hhead hpending hpending'
      rw [hcourse, hwait, EStateM.Result.ok.injEq] at hwait'
      obtain ⟨rfl, rfl⟩ := hwait'
      have hcourses := ((ends_waitForExecuteReadyGate hruntime _ _).of_ok hwait).1
      exact ⟨htask, houtcome.trans houtcome'.symm, hsent.trans hsent'.symm,
        hexit.trans hexit'.symm, rfl, Or.inl hcourses, ⟨_, rfl, rfl⟩,
        Site.written_sameButUpdates hsame _ _ _⟩
    | navigated hpending' hresolve' hwait' hready' =>
      rw [hcourse, hwait, EStateM.Result.ok.injEq] at hwait'
      obtain ⟨rfl, rfl⟩ := hwait'
      simp [hready] at hready'
  | navigated hpending hresolve hwait hready hnavigate hbefore houtcome hsent hexit =>
    cases h' with
    | idle hpending' => simp [htables, hpending] at hpending'
    | refused hpending' hresolve' =>
      obtain rfl := hhead hpending hpending'
      simp [hresolve] at hresolve'
    | notReady hpending' hresolve' hwait' hready' =>
      rw [hcourse, hwait, EStateM.Result.ok.injEq] at hwait'
      obtain ⟨rfl, rfl⟩ := hwait'
      simp [hready] at hready'
    | navigated hpending' hresolve' hwait' hready' hnavigate' hbefore' houtcome' hsent' hexit' =>
      obtain rfl := hhead hpending hpending'
      rw [hresolve, Except.ok.injEq, Prod.mk.injEq] at hresolve'
      obtain ⟨-, rfl⟩ := hresolve'
      rw [hcourse, hwait, EStateM.Result.ok.injEq] at hwait'
      obtain ⟨rfl, rfl⟩ := hwait'
      rw [hnavigate, EStateM.Result.ok.injEq] at hnavigate'
      obtain ⟨rfl, rfl⟩ := hnavigate'
      have hcourses := ((ends_waitForExecuteReadyGate hruntime _ _).of_ok hwait).1
      have hgoal := (run_navigateToPose hnavigate).2
      rw [hcourses] at hgoal
      exact ⟨htask, houtcome.trans houtcome'.symm, hsent.trans hsent'.symm,
        hexit.trans hexit'.symm, rfl, Or.inr ⟨_, hgoal⟩,
        ⟨_, List.append_assoc _ _ _, List.append_assoc _ _ _⟩,
        Site.written_sameButUpdates (Site.written_sameButUpdates hsame _ _ _) _ _ _⟩

end Agreement

/-- Any table that posts and status updates lead to. -/
theorem http_and_database_executions_agree (around : Surroundings)
    (hruntime : around.runtime.Responds) (hplain : around.runtime.SpeaksPlainly)
    (hfinite : FinitePoints around.file) (ops : List TableOp) (options : ExecutorOptions)
    (hexecute : options.execute = true) (apiBaseUrl : String) (start start' : Site)
    (hstart : start.database.tasks = (runAll (TableOp.step around.file) {} ops).tasks)
    (htables : start'.database.tasks = start.database.tasks)
    (hcourse : start'.course = start.course) :
    ∃ result finish result' finish',
      ((runExecutorOnce none options).run (answer around)).run start = .ok result finish ∧
      ((runHttpExecutorOnce apiBaseUrl options).run (answer around)).run start' =
        .ok result' finish' ∧
      Agree start start' finish finish' result result' := by
  have hposted : PostedRows around.file start.database.tasks := by
    rw [hstart]
    apply postedRows_run
    intro task htask
    simp [AutoTable.empty] at htask
  have hcaught : ∀ task rest, pendingTasks start.database.tasks = task :: rest →
      Caught task.2.targetName around.file := by
    intro task rest hpending e he
    have hmem := (mem_pendingTasks.mp (hpending ▸ List.mem_cons_self)).1
    simp [(hposted task hmem).resolved] at he
  obtain ⟨result, finish, hrun, honce⟩ := (ends_runOnce hruntime hexecute hcaught).run_ok
  obtain ⟨result', finish', hrun', honce'⟩ := (ends_runHttpExecutorOnce hruntime hplain
    (htables ▸ hposted) hfinite hexecute).run_ok
  exact ⟨result, finish, result', finish', hrun, hrun',
    honce.agree hruntime htables hcourse honce'⟩

lemma willingRuntime_speaksPlainly : willingRuntime.SpeaksPlainly := by
  refine ⟨?_, ?_⟩
  · intro n gate hgate
    obtain rfl := Except.ok.inj hgate
    decide +kernel
  · intro n navigation hnavigation
    obtain rfl := Except.ok.inj hnavigation
    decide +kernel

lemma station_finite : FinitePoints (.ok (stationPoints (.integer 1))) := by
  intro requested resolved pose h
  obtain ⟨points, hpoints, hname, hpose⟩ := resolveTargetPose_ok.mp h
  obtain rfl := Except.ok.inj hpoints
  have hknown := (Dict.mem_keys _ _).mpr (resolveTargetName_isSome hname)
  have hkeys : (stationPoints (.integer 1)).keys = ["station_a"] := by decide +kernel
  rw [hkeys, List.mem_singleton] at hknown
  subst hknown
  have hstation : poseOf "station_a" (stationPoints (.integer 1)) =
      .ok ⟨"map", .finite 1, .finite 2, .finite 0⟩ := by
    decide +kernel
  obtain rfl := Except.ok.inj (hstation.symm.trans hpose)
  exact ⟨rfl, rfl, rfl⟩

def stationOps : List TableOp :=
  [.post [("target_name", .string " station_a ")] ⟨2026, 5, 13, 8, 0, 0⟩,
    .post [("target_name", .string "station_a"), ("task_name", .string " restock ")]
      ⟨2026, 5, 13, 8, 1, 0⟩,
    .update 1 "pending" (some "retry") ⟨2026, 5, 13, 8, 2, 0⟩]

def stationSite (stamped : ℕ) : Site where
  database := runAll (TableOp.step (.ok (stationPoints (.integer 1)))) {} stationOps
  stamped := stamped

theorem http_and_database_executions_agree_station :
    ∃ result finish result' finish',
      ((runExecutorOnce none {}).run (answer (willingSurroundings (.integer 1)))).run
        (stationSite 0) = .ok result finish ∧
      ((runHttpExecutorOnce "http://127.0.0.1:8000" {}).run
        (answer (willingSurroundings (.integer 1)))).run (stationSite 7) = .ok result' finish' ∧
      Agree (stationSite 0) (stationSite 7) finish finish' result result' :=
  http_and_database_executions_agree (willingSurroundings (.integer 1)) willingRuntime_responds
    willingRuntime_speaksPlainly station_finite stationOps {} rfl "http://127.0.0.1:8000"
    (stationSite 0) (stationSite 7) rfl rfl rfl

end Wms
