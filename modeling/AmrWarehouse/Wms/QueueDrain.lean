import AmrWarehouse.Wms.TaskRunner

/-! The runner drains the queue exactly, unless a target's coordinates are beyond any float. -/

namespace Wms

open Library

/-- The rows of the consumed tasks, and the goals that were sent for them after the first `n`. -/
inductive Consumed (around : Surroundings) (finish : TaskTable) : ℕ → List Task → List Pose → Prop
  | none (n) : Consumed around finish n [] []
  | refused {n task rest poses e updatedAt}
      (hresolve : resolveTargetPose task.2.targetName around.file = .error e)
      (hrow : finish.find? task.1 = some
        (task.2.withStatus .failed (some s!"Target resolution failed: {e.text}") updatedAt))
      (hrest : Consumed around finish n rest poses) : Consumed around finish n (task :: rest) poses
  | navigated {n task rest poses resolved pose navigation updatedAt}
      (hresolve : resolveTargetPose task.2.targetName around.file = .ok (resolved, pose))
      (hnavigation : around.runtime.navigations n = .ok navigation)
      (hrow : finish.find? task.1 = some
        (task.2.withStatus (finalStatus navigation) (some navigation.reason) updatedAt))
      (hrest : Consumed around finish (n + 1) rest poses) :
      Consumed around finish n (task :: rest) (pose :: poses)

/-- The next pending task keeps its row but for the reason and the time of the update. -/
def TimedOut (around : Surroundings) (task : Task) (finish : TaskTable) : Prop :=
  ∃ n gate updatedAt, around.runtime.gates n = .ok gate ∧ gate.ready = false ∧
    finish.find? task.1 =
      some { task.2 with statusReason := some (notSatisfied gate), updatedAt := updatedAt }

def failedIn (finish : TaskTable) (task : Task) : Bool :=
  (finish.find? task.1).any fun row => row.status = .failed

/-- An exact drain of the tasks that were pending at the start. -/
structure Drained (around : Surroundings) (options : QueueOptions) (start finish : Site)
    (result : QueueResult) : Prop where
  turns : result.executorRuns ≤ (pendingTasks start.database.tasks).length + 1
  consumed : ∃ poses, finish.course.sent = start.course.sent ++ poses ∧
    Consumed around finish.database.tasks start.course.sent.length
      ((pendingTasks start.database.tasks).take result.consumedTasks) poses
  within : result.consumedTasks ≤ (pendingTasks start.database.tasks).length
  ids : finish.database.tasks.rows.map Prod.fst = start.database.tasks.rows.map Prod.fst
  others : ∀ id, id ∉ ((pendingTasks start.database.tasks).take result.consumedTasks).map Prod.fst →
    (result.stopReason = .readyGateTimeout →
      ∀ task, (pendingTasks start.database.tasks)[result.consumedTasks]? = some task →
        id ≠ task.1) →
    finish.database.tasks.find? id = start.database.tasks.find? id
  counted : result.consumedTasks = result.succeededTasks + result.failedTasks
  failures : result.failedTasks =
    ((pendingTasks start.database.tasks).take result.consumedTasks).countP
      (failedIn finish.database.tasks)
  limit : 0 < options.maxTasks → result.consumedTasks ≤ options.maxTasks
  exitCode : result.exitCode = 0 ↔
    result.failedTasks = 0 ∧ result.stopReason ≠ .readyGateTimeout
  stopped : match result.stopReason with
    | .queueEmpty => pendingTasks finish.database.tasks = []
    | .maxTasksReached => 0 < options.maxTasks ∧ result.consumedTasks = options.maxTasks
    | .terminalFailure => options.continueOnFailure = false ∧ 0 < result.failedTasks
    | .readyGateTimeout => ∃ task,
      (pendingTasks start.database.tasks)[result.consumedTasks]? = some task ∧
        TimedOut around task finish.database.tasks
    | _ => False

variable {around : Surroundings} {options : QueueOptions} {site site' finish : Site}

section Written

variable {id : ℕ} {status : TaskStatus} {reason : String}

@[simp] lemma written_course : (site.written around id status reason).course = site.course := rfl

@[simp] lemma written_ids :
    (site.written around id status reason).database.tasks.rows.map Prod.fst =
      site.database.tasks.rows.map Prod.fst :=
  AutoTable.update_ids _ _ _

lemma pendingTasks_written (hstatus : status ≠ .pending) :
    pendingTasks (site.written around id status reason).database.tasks =
      (pendingTasks site.database.tasks).filter fun task => task.1 ≠ id :=
  pendingTasks_update id fun _ => hstatus

end Written

structure Settles (around : Surroundings) (site site' : Site) (task : Task) (rest : List Task)
    (row : TaskRow) : Prop where
  queue : pendingTasks site.database.tasks = task :: rest
  next : pendingTasks site'.database.tasks = rest
  ids : site'.database.tasks.rows.map Prod.fst = site.database.tasks.rows.map Prod.fst
  others : ∀ id, id ≠ task.1 → site'.database.tasks.find? id = site.database.tasks.find? id
  found : site'.database.tasks.find? task.1 = some row
  consumes : ∀ finish later poses, finish.find? task.1 = some row →
    Consumed around finish site'.course.sent.length later poses →
    ∃ poses', site'.course.sent ++ poses = site.course.sent ++ poses' ∧
      Consumed around finish site.course.sent.length (task :: later) poses'

lemma find_head {task : Task} {rest : List Task}
    (h : pendingTasks site.database.tasks = task :: rest) :
    site.database.tasks.find? task.1 = some task.2 :=
  (getNextPendingTask_find (getNextPendingTask_eq_some.mpr ⟨rest, h⟩)).1

lemma settles_refused {task : Task} {rest : List Task} {e : WmsError}
    (hpending : pendingTasks site.database.tasks = task :: rest)
    (hresolve : resolveTargetPose task.2.targetName around.file = .error e) :
    Settles around site
      (site.written around task.1 .failed s!"Target resolution failed: {e.text}") task rest
      (task.2.withStatus .failed (some s!"Target resolution failed: {e.text}")
        (around.utc site.stamped).timestamp) where
  queue := hpending
  next := pendingTasks_settle hpending fun _ => by simp
  ids := written_ids
  others id hid := by rw [find?_written, if_neg hid]
  found := by
    rw [find?_written, if_pos rfl, find_head hpending]
    rfl
  consumes finish later poses hrow hlater := ⟨poses, rfl, .refused hresolve hrow hlater⟩

lemma settles_navigated {task : Task} {rest : List Task} {resolved : String} {pose : Pose}
    {navigation : NavigationResult} {course course' : Course}
    (hpending : pendingTasks site.database.tasks = task :: rest)
    (hresolve : resolveTargetPose task.2.targetName around.file = .ok (resolved, pose))
    (hcourse : course.sent = site.course.sent)
    (hnavigation : around.runtime.navigations course.sent.length = .ok navigation)
    (hsent : course'.sent = course.sent ++ [pose]) :
    Settles around site
      (Site.written around
        { Site.written around { site with course := course } task.1 .running dispatched with
          course := course' } task.1 (finalStatus navigation) navigation.reason) task rest
      (task.2.withStatus (finalStatus navigation) (some navigation.reason)
        (around.utc (site.stamped + 1)).timestamp) where
  queue := hpending
  next := by
    have hfinal : finalStatus navigation ≠ .pending := by
      rw [finalStatus]
      split_ifs <;> decide
    have hrunning : pendingTasks (Site.written around { site with course := course } task.1 .running
        dispatched).database.tasks = rest := pendingTasks_settle hpending fun _ => by simp
    rw [pendingTasks_written hfinal]
    dsimp only
    rw [hrunning, filter_rest hpending]
  ids := written_ids.trans written_ids
  others id hid := by
    rw [find?_written, if_neg hid]
    dsimp only
    rw [find?_written, if_neg hid]
  found := by
    rw [find?_written, if_pos rfl]
    dsimp only
    rw [find?_written, if_pos rfl]
    dsimp only
    rw [find_head hpending]
    rfl
  consumes finish later poses hrow hlater := by
    rw [hcourse] at hnavigation hsent
    refine ⟨pose :: poses, ?_, .navigated hresolve hnavigation hrow ?_⟩
    · rw [written_course, hsent, List.append_assoc, List.singleton_append]
    · rw [written_course, hsent, List.length_append] at hlater
      exact hlater

structure DrainedFrom (around : Surroundings) (options : QueueOptions) (tally : Tally)
    (start finish : Site) (result : QueueResult) (k : ℕ) : Prop where
  turns : result.runs.length ≤ tally.runs.length + (pendingTasks start.database.tasks).length + 1
  total : result.consumedTasks = tally.consumedTasks + k
  within : k ≤ (pendingTasks start.database.tasks).length
  consumed : ∃ poses, finish.course.sent = start.course.sent ++ poses ∧
    Consumed around finish.database.tasks start.course.sent.length
      ((pendingTasks start.database.tasks).take k) poses
  ids : finish.database.tasks.rows.map Prod.fst = start.database.tasks.rows.map Prod.fst
  others : ∀ id, id ∉ ((pendingTasks start.database.tasks).take k).map Prod.fst →
    (result.stopReason = .readyGateTimeout →
      ∀ task, (pendingTasks start.database.tasks)[k]? = some task → id ≠ task.1) →
    finish.database.tasks.find? id = start.database.tasks.find? id
  failures : result.failedTasks = tally.failedTasks +
    ((pendingTasks start.database.tasks).take k).countP (failedIn finish.database.tasks)
  counted : tally.consumedTasks = tally.succeededTasks + tally.failedTasks →
    result.consumedTasks = result.succeededTasks + result.failedTasks
  limit : 0 < options.maxTasks → tally.consumedTasks ≤ options.maxTasks →
    result.consumedTasks ≤ options.maxTasks
  exitCode : (tally.exitCode = 0 ↔ tally.failedTasks = 0) →
    (result.exitCode = 0 ↔ result.failedTasks = 0 ∧ result.stopReason ≠ .readyGateTimeout)
  stopped : match result.stopReason with
    | .queueEmpty => pendingTasks finish.database.tasks = []
    | .maxTasksReached => 0 < options.maxTasks ∧ options.maxTasks ≤ result.consumedTasks
    | .terminalFailure => options.continueOnFailure = false ∧ 0 < result.failedTasks
    | .readyGateTimeout => ∃ task, (pendingTasks start.database.tasks)[k]? = some task ∧
        TimedOut around task finish.database.tasks
    | _ => False

lemma drainedFrom_here {tally : Tally} {result : QueueResult}
    (hsite : finish.database = site.database)
    (hsent : finish.course.sent = site.course.sent)
    (hruns : result.runs.length ≤ tally.runs.length + 1)
    (htotal : result.consumedTasks = tally.consumedTasks)
    (hsucceeded : result.succeededTasks = tally.succeededTasks)
    (hfailed : result.failedTasks = tally.failedTasks) (hexit : result.exitCode = tally.exitCode)
    (hstop : match result.stopReason with
      | .queueEmpty => pendingTasks site.database.tasks = []
      | .maxTasksReached => 0 < options.maxTasks ∧ options.maxTasks ≤ result.consumedTasks
      | .terminalFailure => options.continueOnFailure = false ∧ 0 < result.failedTasks
      | _ => False) : DrainedFrom around options tally site finish result 0 where
  turns := by omega
  total := htotal
  within := Nat.zero_le _
  consumed := ⟨[], by rw [hsent, List.append_nil], .none _⟩
  ids := by rw [hsite]
  others := by
    intro id _ _
    rw [hsite]
  failures := by rw [hfailed, List.take_zero, List.countP_nil, Nat.add_zero]
  counted := by
    intro h
    rw [htotal, hsucceeded, hfailed, h]
  limit := by
    intro _ h
    rw [htotal]
    exact h
  exitCode := by
    intro h
    rw [hexit, hfailed, h]
    cases hreason : result.stopReason <;> simp_all
  stopped := by
    rw [hsite]
    cases hreason : result.stopReason <;> simp_all

lemma DrainedFrom.found {tally : Tally} {result : QueueResult} {task : Task} {rest : List Task}
    {row : TaskRow} {k : ℕ} (h : DrainedFrom around options tally site' finish result k)
    (hsettles : Settles around site site' task rest row) :
    finish.database.tasks.find? task.1 = some row := by
  have hlater : ∀ other ∈ rest, other.1 ≠ task.1 := fun _ hother =>
    ne_of_mem_rest hsettles.queue hother
  rw [← hsettles.found]
  refine h.others task.1 ?_ ?_
  · rw [hsettles.next]
    intro hmem
    obtain ⟨other, hother, hid⟩ := List.mem_map.mp hmem
    exact hlater other (List.mem_of_mem_take hother) hid
  · intro _ other hother
    rw [hsettles.next] at hother
    exact (hlater other (List.mem_of_getElem? hother)).symm

lemma DrainedFrom.after {tally tally' : Tally} {result : QueueResult} {task : Task}
    {rest : List Task} {row : TaskRow} {k : ℕ}
    (hsettles : Settles around site site' task rest row)
    (hruns : tally'.runs.length = tally.runs.length + 1)
    (htotal : tally'.consumedTasks = tally.consumedTasks + 1)
    (hfailed : tally'.failedTasks = tally.failedTasks + if row.status = .failed then 1 else 0)
    (hsucceeded : tally'.succeededTasks =
      tally.succeededTasks + if row.status = .failed then 0 else 1)
    (hexit : tally'.exitCode = 0 ↔ tally.exitCode = 0 ∧ row.status ≠ .failed)
    (hlimit : 0 < options.maxTasks → tally.consumedTasks < options.maxTasks)
    (h : DrainedFrom around options tally' site' finish result k) :
    DrainedFrom around options tally site finish result (k + 1) where
  turns := by
    have hturns := h.turns
    rw [hsettles.next, hruns] at hturns
    rw [hsettles.queue, List.length_cons]
    omega
  total := by
    rw [h.total, htotal]
    omega
  within := by
    have hwithin := h.within
    rw [hsettles.next] at hwithin
    rw [hsettles.queue, List.length_cons]
    omega
  consumed := by
    obtain ⟨poses, hsent, hconsumed⟩ := h.consumed
    rw [hsettles.next] at hconsumed
    obtain ⟨poses', hposes, hall⟩ := hsettles.consumes _ _ _ (h.found hsettles) hconsumed
    refine ⟨poses', hsent.trans hposes, ?_⟩
    rw [hsettles.queue, List.take_succ_cons]
    exact hall
  ids := h.ids.trans hsettles.ids
  others := by
    intro id hid htimeout
    rw [hsettles.queue, List.take_succ_cons, List.map_cons, List.mem_cons, not_or] at hid
    rw [← hsettles.others id hid.1]
    refine h.others id ?_ ?_
    · rw [hsettles.next]
      exact hid.2
    · intro hreason other hother
      rw [hsettles.next] at hother
      refine htimeout hreason other ?_
      rw [hsettles.queue, List.getElem?_cons_succ]
      exact hother
  failures := by
    rw [h.failures, hfailed, hsettles.next, hsettles.queue, List.take_succ_cons, List.countP_cons,
      failedIn, h.found hsettles]
    simp only [Option.any_some, decide_eq_true_eq]
    omega
  counted := by
    intro hcounted
    apply h.counted
    rw [htotal, hsucceeded, hfailed, hcounted]
    split_ifs <;> omega
  limit := by
    intro hmax htally
    refine h.limit hmax ?_
    have hless := hlimit hmax
    rw [htotal]
    push_cast
    omega
  exitCode := by
    intro htally
    apply h.exitCode
    rw [hexit, hfailed, htally]
    split_ifs with hstatus <;> simp [hstatus]
  stopped := by
    have hstopped := h.stopped
    rw [hsettles.next] at hstopped
    rw [hsettles.queue, List.getElem?_cons_succ]
    exact hstopped

lemma drainedFrom_timeout {tally : Tally} {result : QueueResult} {task : Task} {rest : List Task}
    {gate : ReadyGateResult} {n : ℕ} {course : Course}
    (hpending : pendingTasks site.database.tasks = task :: rest)
    (hgate : around.runtime.gates n = .ok gate) (hready : gate.ready = false)
    (hcourse : course.sent = site.course.sent)
    (hruns : result.runs.length = tally.runs.length + 1)
    (htotal : result.consumedTasks = tally.consumedTasks)
    (hsucceeded : result.succeededTasks = tally.succeededTasks)
    (hfailed : result.failedTasks = tally.failedTasks) (hexit : result.exitCode ≠ 0)
    (hstop : result.stopReason = .readyGateTimeout) :
    DrainedFrom around options tally site
      (Site.written around { site with course := course } task.1 .pending (notSatisfied gate))
      result 0 where
  turns := by omega
  total := htotal
  within := Nat.zero_le _
  consumed := ⟨[], by rw [written_course, hcourse, List.append_nil], .none _⟩
  ids := written_ids
  others := by
    intro id _ htask
    have hne : id ≠ task.1 := htask hstop task (by rw [hpending, List.getElem?_cons_zero])
    rw [find?_written, if_neg hne]
  failures := by rw [hfailed, List.take_zero, List.countP_nil, Nat.add_zero]
  counted := by
    intro h
    rw [htotal, hsucceeded, hfailed, h]
  limit := by
    intro _ h
    rw [htotal]
    exact h
  exitCode := by simp [hexit, hstop]
  stopped := by
    rw [hstop]
    refine ⟨task, by rw [hpending, List.getElem?_cons_zero], n, gate,
      (around.utc site.stamped).timestamp, hgate, hready, ?_⟩
    rw [find?_written, if_pos rfl]
    dsimp only
    have hfind := getNextPendingTask_find (getNextPendingTask_eq_some.mpr ⟨rest, hpending⟩)
    rw [hfind.1, Option.map_some, TaskRow.withStatus, hfind.2]

section Loop

variable {executor : ExecutorOptions} {turns : ℕ} {tally : Tally} {result : ExecutorResult}
  {task : Task} {rest : List Task} {row : TaskRow}

def GoesOn (around : Surroundings) (options : QueueOptions) (executor : ExecutorOptions)
    (turns : ℕ) (site : Site) : Prop :=
  ∀ tally, Ends (drainQueue options (runOnce around executor) turns tally) site
    (fun result finish => ∃ k, DrainedFrom around options tally site finish result k)
    (fun _ => False)

def proceed (around : Surroundings) (options : QueueOptions) (executor : ExecutorOptions)
    (turns : ℕ) : Tally × Option StopReason → Call Site QueueResult
  | (tally, some stopReason) => return options.stop tally stopReason
  | (tally, none) => drainQueue options (runOnce around executor) turns tally

lemma ends_proceed_succeeded (hexecute : options.execute = true)
    (hsettles : Settles around site site' task rest row) (hstatus : row.status = .succeeded)
    (houtcome : result.outcome = some .succeeded) (hexit : result.exitCode = 0)
    (hlimit : 0 < options.maxTasks → (tally.consumedTasks : ℤ) < options.maxTasks)
    (hlater : GoesOn around options executor turns site') :
    Ends (proceed around options executor turns (afterRun options tally result)) site'
      (fun result finish => ∃ k, DrainedFrom around options tally site finish result k)
      (fun _ => False) := by
  simp only [afterRun, houtcome, hexecute, Option.some.injEq, reduceCtorEq, if_false, if_true]
  refine (hlater _).mono ?_ (fun _ h => h)
  rintro final finish ⟨k, hdrained⟩
  refine ⟨k + 1, hdrained.after hsettles ?_ rfl ?_ ?_ ?_ hlimit⟩
  · simp
  · simp [hstatus]
  · simp [hstatus]
  · simp [hstatus, hexit]

lemma ends_proceed_failed (hexecute : options.execute = true)
    (hsettles : Settles around site site' task rest row) (hstatus : row.status = .failed)
    (houtcome : result.outcome = some .failed ∨ result.outcome = some .invalidTarget)
    (hexit : result.exitCode = 1)
    (hlimit : 0 < options.maxTasks → (tally.consumedTasks : ℤ) < options.maxTasks)
    (hlater : GoesOn around options executor turns site') :
    Ends (proceed around options executor turns (afterRun options tally result)) site'
      (fun result finish => ∃ k, DrainedFrom around options tally site finish result k)
      (fun _ => False) := by
  have hidle : result.outcome ≠ some .noPendingTask := by
    rcases houtcome with h | h <;> simp [h]
  have hsucceeded : result.outcome ≠ some .succeeded := by
    rcases houtcome with h | h <;> simp [h]
  simp only [afterRun, if_neg hidle, hexecute, reduceCtorEq, if_false, if_neg hsucceeded,
    if_pos houtcome]
  by_cases hcontinue : options.continueOnFailure = true
  · rw [if_pos hcontinue]
    refine (hlater _).mono ?_ (fun _ h => h)
    rintro final finish ⟨k, hdrained⟩
    refine ⟨k + 1, hdrained.after hsettles ?_ rfl ?_ ?_ ?_ hlimit⟩
    · simp
    · simp [hstatus]
    · simp [hstatus]
    · simp [hstatus, hexit]
  · rw [if_neg hcontinue]
    set tally' : Tally :=
      { runs := tally.runs ++ [result]
        consumedTasks := tally.consumedTasks + 1
        succeededTasks := tally.succeededTasks
        failedTasks := tally.failedTasks + 1
        exitCode := max tally.exitCode result.exitCode } with htally
    have hstopped : DrainedFrom around options tally' site' site'
        (options.stop tally' .terminalFailure) 0 := by
      refine drainedFrom_here rfl rfl (Nat.le_succ _) rfl rfl rfl rfl ?_
      exact ⟨by simpa using hcontinue, Nat.succ_pos _⟩
    refine ⟨0 + 1, hstopped.after hsettles ?_ rfl ?_ ?_ ?_ hlimit⟩
    · simp [htally]
    · simp [htally, hstatus]
    · simp [htally, hstatus]
    · simp [htally, hstatus, hexit]

lemma ends_drainQueue (hruntime : around.runtime.Responds) (hexecute : options.execute = true)
    (hexecutor : executor.execute = true)
    (hcaught : ∀ task ∈ pendingTasks site.database.tasks, Caught task.2.targetName around.file)
    (hturns : (pendingTasks site.database.tasks).length < turns) :
    GoesOn around options executor turns site := by
  induction turns generalizing site with
  | zero => omega
  | succ turns ih =>
    intro tally
    rw [drainQueue]
    by_cases hmax : options.execute = true ∧ 0 < options.maxTasks ∧
        options.maxTasks ≤ tally.consumedTasks
    · rw [if_pos hmax, ends_pure]
      exact ⟨0, drainedFrom_here rfl rfl (Nat.le_add_right _ _) rfl rfl rfl rfl hmax.2⟩
    rw [if_neg hmax, ends_bind]
    have hlimit : 0 < options.maxTasks → (tally.consumedTasks : ℤ) < options.maxTasks := by
      intro hpositive
      by_contra hreached
      exact hmax ⟨hexecute, hpositive, not_lt.mp hreached⟩
    have hhead : ∀ task rest, pendingTasks site.database.tasks = task :: rest →
        Caught task.2.targetName around.file := fun task rest hpending =>
      hcaught task (hpending ▸ List.mem_cons_self)
    refine (ends_runOnce hruntime hexecutor hhead).mono ?_ (fun _ h => h)
    intro result site' honce
    change Ends (proceed around options executor turns (afterRun options tally result)) site' _ _
    have hlater : ∀ {task rest row}, Settles around site site' task rest row →
        GoesOn around options executor turns site' := by
      intro task rest row hsettles
      apply ih
      · rw [hsettles.next]
        intro other hother
        exact hcaught other (hsettles.queue ▸ List.mem_cons_of_mem task hother)
      · rw [hsettles.next]
        rw [hsettles.queue, List.length_cons] at hturns
        omega
    cases honce with
    | idle hpending hbefore houtcome hsent hexit =>
      simp only [afterRun, if_pos houtcome]
      refine ⟨0, drainedFrom_here rfl rfl (by simp [QueueOptions.stop]) rfl rfl rfl ?_ hpending⟩
      simp [QueueOptions.stop, hexit]
    | refused hpending hresolve hbefore houtcome hsent hexit =>
      have hsettles := settles_refused hpending hresolve
      exact ends_proceed_failed hexecute hsettles rfl (Or.inr houtcome) hexit hlimit
        (hlater hsettles)
    | notReady hpending hresolve hwait hready hbefore houtcome hsent hexit =>
      obtain ⟨hcourse, -, n, hgate⟩ := (ends_waitForExecuteReadyGate hruntime _ _).of_ok hwait
      simp only [afterRun, houtcome, hexecute, Option.some.injEq, reduceCtorEq, if_false, if_true,
        or_self]
      refine ⟨0, drainedFrom_timeout hpending hgate hready hcourse ?_ rfl rfl rfl ?_ rfl⟩
      · simp [QueueOptions.stop]
      · simp [QueueOptions.stop]
    | @navigated task rest resolved pose waited course navigation course' hpending hresolve hwait
        hready hnavigate hbefore houtcome hsent hexit =>
      obtain ⟨hcourse, -, -⟩ := (ends_waitForExecuteReadyGate hruntime _ _).of_ok hwait
      obtain ⟨hnavigation, hsent'⟩ := run_navigateToPose hnavigate
      have hsettles := settles_navigated hpending hresolve hcourse hnavigation hsent'
      cases hsucceeded : navigation.succeeded with
      | true =>
        rw [finalOutcome, hsucceeded, if_pos rfl] at houtcome
        rw [hsucceeded, if_pos rfl] at hexit
        refine ends_proceed_succeeded hexecute hsettles ?_ houtcome hexit hlimit (hlater hsettles)
        rw [withStatus_status, finalStatus, hsucceeded, if_pos rfl]
      | false =>
        rw [finalOutcome, hsucceeded, if_neg (by decide)] at houtcome
        rw [hsucceeded, if_neg (by decide)] at hexit
        refine ends_proceed_failed hexecute hsettles ?_ (Or.inl houtcome) hexit hlimit
          (hlater hsettles)
        rw [withStatus_status, finalStatus, hsucceeded, if_neg (by decide)]

end Loop

/-- The file is there, and is refused only as invalid. -/
def Readable (file : Except WmsError TaskPoints) : Prop :=
  ∀ e, file = .error e → e.kind = .valueError

/-- A coordinate of the target is a whole number that no float holds. -/
def Oversized (file : Except WmsError TaskPoints) (requested : String) : Prop :=
  ∃ e, resolveTargetPose requested file = .error e ∧ e.kind = .overflowError

/-- Whatever the runtime answers and the limits are, the runner returns from an exact drain. -/
def DrainsExactly (file : Except WmsError TaskPoints) (table : TaskTable) : Prop :=
  ∀ (around : Surroundings) (options : QueueOptions) (start : Site), around.file = file →
    around.runtime.Responds → options.execute = true → 0 ≤ options.maxTasks →
    start.database.tasks = table → ∃ result finish,
      (runTaskQueue around options).run start = .ok result finish ∧
        Drained around options start finish result

lemma caught_iff (hreadable : Readable around.file) (requested : String) :
    Caught requested around.file ↔ ¬ Oversized around.file requested := by
  constructor
  · rintro hcaught ⟨e, he, hkind⟩
    rcases hcaught e he with h | h <;> simp [h] at hkind
  · intro hfits e he
    rcases resolveTargetPose_error he with hfile | hkey | hvalue | hoverflow
    · exact Or.inr (hreadable e hfile)
    · exact Or.inl hkey
    · exact Or.inr hvalue
    · exact (hfits ⟨e, he, hoverflow⟩).elim

lemma DrainedFrom.drained {result : QueueResult} {k : ℕ}
    (h : DrainedFrom around options {} site finish result k) :
    Drained around options site finish result := by
  have htotal : result.consumedTasks = k := by rw [h.total, Nat.zero_add]
  subst htotal
  have hlimit : 0 < options.maxTasks → (result.consumedTasks : ℤ) ≤ options.maxTasks :=
    fun hmax => h.limit hmax hmax.le
  constructor
  · have hturns := h.turns
    rw [QueueResult.executorRuns]
    simpa using hturns
  · exact h.consumed
  · exact h.within
  · exact h.ids
  · exact h.others
  · exact h.counted rfl
  · rw [h.failures, Nat.zero_add]
  · exact hlimit
  · exact h.exitCode Iff.rfl
  · have hstopped := h.stopped
    cases hreason : result.stopReason with
    | maxTasksReached =>
      rw [hreason] at hstopped
      exact ⟨hstopped.1, le_antisymm (hlimit hstopped.1) hstopped.2⟩
    | _ =>
      rw [hreason] at hstopped
      exact hstopped

lemma run_runTaskQueue (hmax : 0 ≤ options.maxTasks) (hexecute : options.execute = true) :
    (runTaskQueue around options).run site =
      (drainQueue options (runOnce around { options.executor with execute := true })
        ((pendingTasks site.database.tasks).length + 1) {}).run site := by
  rw [runTaskQueue, if_neg (not_lt.mpr hmax), hexecute]
  rfl

lemma ends_drainQueue_uncaught (hruntime : around.runtime = willingRuntime)
    (hexecute : options.execute = true) (hmax : options.maxTasks = 0)
    {executor : ExecutorOptions} (hexecutor : executor.execute = true)
    (hcontinue : options.continueOnFailure = true) {turns : ℕ} {tally : Tally} {task : Task}
    (htask : task ∈ pendingTasks site.database.tasks)
    (huncaught : ¬ Caught task.2.targetName around.file) :
    Ends (drainQueue options (runOnce around executor) turns tally) site (fun _ _ => False)
      (fun _ => True) := by
  induction turns generalizing site tally with
  | zero => trivial
  | succ turns ih =>
    rw [drainQueue, if_neg (by omega), ends_bind]
    obtain ⟨head, rest, hpending⟩ := List.exists_cons_of_ne_nil (List.ne_nil_of_mem htask)
    by_cases hhead : Caught head.2.targetName around.file
    · have hrest : task ∈ rest := by
        rw [hpending] at htask
        rcases List.mem_cons.mp htask with rfl | hrest
        · exact (huncaught hhead).elim
        · exact hrest
      have hresponds : around.runtime.Responds := hruntime ▸ willingRuntime_responds
      have hcaught : ∀ other rest', pendingTasks site.database.tasks = other :: rest' →
          Caught other.2.targetName around.file := by
        intro other rest' hother
        rw [hpending, List.cons.injEq] at hother
        exact hother.1 ▸ hhead
      refine (ends_runOnce hresponds hexecutor hcaught).mono ?_ (fun _ h => h.elim)
      intro result site' honce
      cases honce with
      | idle hidle => simp [hpending] at hidle
      | refused hother hresolve hbefore houtcome hsent hexit =>
        have hsettles := settles_refused hother hresolve
        rw [hpending, List.cons.injEq] at hother
        simp only [afterRun, houtcome, hexecute, hcontinue, Option.some.injEq, reduceCtorEq,
          if_false, if_true, or_true]
        exact ih (by rw [hsettles.next, ← hother.2]; exact hrest)
      | notReady hother hresolve hwait hready =>
        obtain ⟨-, -, n, hgate⟩ := (ends_waitForExecuteReadyGate hresponds _ _).of_ok hwait
        rw [hruntime, willingRuntime] at hgate
        rw [← Except.ok.inj hgate] at hready
        simp at hready
      | navigated hother hresolve hwait hready hnavigate hbefore houtcome hsent hexit =>
        obtain ⟨hcourse, -, -⟩ := (ends_waitForExecuteReadyGate hresponds _ _).of_ok hwait
        obtain ⟨hnavigation, hsent'⟩ := run_navigateToPose hnavigate
        have hsettles := settles_navigated hother hresolve hcourse hnavigation hsent'
        rw [hpending, List.cons.injEq] at hother
        rw [hruntime, willingRuntime] at hnavigation
        obtain rfl := Except.ok.inj hnavigation
        simp only [afterRun, houtcome, finalOutcome, hexecute, Option.some.injEq, reduceCtorEq,
          if_false, if_true]
        exact ih (by rw [hsettles.next, ← hother.2]; exact hrest)
    · exact (ends_runOnce_uncaught hpending hhead).mono (fun _ _ h => h.elim) (fun _ h => h)

theorem queue_drains_exactly_iff (file : Except WmsError TaskPoints) (hfile : Readable file)
    (table : TaskTable) : DrainsExactly file table ↔
      ∀ task ∈ pendingTasks table, ¬ Oversized file task.2.targetName := by
  constructor
  · intro hdrains task htask hoversized
    have huncaught : ¬ Caught task.2.targetName file := by
      rintro hcaught
      obtain ⟨e, he, hkind⟩ := hoversized
      rcases hcaught e he with h | h <;> simp [h] at hkind
    obtain ⟨result, finish, hrun, -⟩ := hdrains ⟨file, willingRuntime, fun _ => ⟨0, 0, 0, 0, 0, 0⟩,
      fun _ => 0⟩ { continueOnFailure := true } ⟨⟨table, []⟩, 0, {}⟩ rfl willingRuntime_responds rfl
      le_rfl rfl
    rw [run_runTaskQueue le_rfl rfl] at hrun
    exact (ends_drainQueue_uncaught rfl rfl rfl rfl rfl htask huncaught).of_ok hrun
  · rintro hfits around options start rfl hruntime hexecute hmax rfl
    have hcaught : ∀ task ∈ pendingTasks start.database.tasks,
        Caught task.2.targetName around.file := fun task htask =>
      (caught_iff hfile _).mpr (hfits task htask)
    have hexecutor : { options.executor with execute := true }.execute = true := rfl
    obtain ⟨result, finish, hrun, k, hdrained⟩ := (ends_drainQueue hruntime hexecute hexecutor
      hcaught (Nat.lt_succ_self _) {}).run_ok
    exact ⟨result, finish, (run_runTaskQueue hmax hexecute).trans hrun, hdrained.drained⟩

theorem queue_drains_exactly_iff_station :
    DrainsExactly (.ok (stationPoints (.integer 1))) stationTable ↔
      ∀ task ∈ pendingTasks stationTable,
        ¬ Oversized (.ok (stationPoints (.integer 1))) task.2.targetName :=
  queue_drains_exactly_iff (.ok (stationPoints (.integer 1))) (fun _ h => nomatch h) stationTable

theorem oversized_coordinate_stops_the_runner :
    ¬ DrainsExactly (.ok (stationPoints (.integer (10 ^ 400)))) stationTable := by
  intro hdrains
  obtain ⟨result, finish, hrun, -⟩ := hdrains (willingSurroundings (.integer (10 ^ 400))) {}
    ⟨⟨stationTable, []⟩, 0, {}⟩ rfl willingRuntime_responds rfl le_rfl rfl
  have hraises : raises (runTaskQueue (willingSurroundings (.integer (10 ^ 400))) {})
      ⟨⟨stationTable, []⟩, 0, {}⟩ = true := by
    decide +kernel
  rw [raises_of_ok hrun] at hraises
  simp at hraises

end Wms
