import AmrWarehouse.Library.Runs
import AmrWarehouse.Wms.ExecutorRuns

/-! Executors and API clients on one task table, one read or update after another. -/

namespace Wms

open Library

/-- How far an executor is with the task it has selected. -/
inductive Stage
  | fresh
  | selected (id : ℕ)
  | claimed (id : ℕ)
  | sent (id : ℕ)
  | finished
  deriving DecidableEq

namespace Stage

def task : Stage → Option ℕ
  | selected id => some id
  | claimed id => some id
  | sent id => some id
  | _ => none

inductive Asks : Stage → Request → Prop
  | look : Asks fresh .nextPendingTask
  | read (id : ℕ) : Asks (selected id) .readTaskPoints
  | wait (id : ℕ) (readyTimeoutSec readyPollIntervalSec : ℚ) :
      Asks (selected id) (.waitForReadyGate readyTimeoutSec readyPollIntervalSec)
  | giveUp (id : ℕ) (reason : Option String) : Asks (selected id) (.updateStatus id .failed reason)
  | putBack (id : ℕ) (reason : Option String) :
      Asks (selected id) (.updateStatus id .pending reason)
  | claim (id : ℕ) (reason : Option String) : Asks (selected id) (.updateStatus id .running reason)
  | go (id : ℕ) (pose : Pose) (timeoutSec : Floating) :
      Asks (claimed id) (.navigateToPose pose timeoutSec)
  | settle (id : ℕ) {status : TaskStatus} (hstatus : status = .succeeded ∨ status = .failed)
      (reason : Option String) : Asks (sent id) (.updateStatus id status reason)

def after : Stage → (request : Request) → Except WmsError request.Answer → Stage
  | _, .nextPendingTask, .ok (some task) => selected task.1
  | _, .nextPendingTask, _ => finished
  | _, .updateStatus id .running _, .ok _ => claimed id
  | _, .updateStatus _ _ _, _ => finished
  | _, .waitForReadyGate _ _, .error _ => finished
  | claimed id, .navigateToPose _ _, .ok _ => sent id
  | _, .navigateToPose _ _, _ => finished
  | stage, _, _ => stage

end Stage

def executorProtocol : Protocol Stage Request Request.Answer WmsError where
  allowed := Stage.Asks
  next := Stage.after

section Follows

variable {options : ExecutorOptions}

open Protocol

lemma finalStatus_cases (navigation : NavigationResult) :
    finalStatus navigation = .succeeded ∨ finalStatus navigation = .failed := by
  rw [finalStatus]
  split_ifs <;> simp

lemma follows_executeTask (options : ExecutorOptions) (result : ExecutorResult) (id : ℕ)
    (pose : Pose) :
    executorProtocol.Follows (.selected id) (executeTask options result id pose) := by
  refine follows_perform (.wait id _ _) fun readyWait => ?_
  dsimp only
  split_ifs
  · exact follows_perform (.putBack id _) fun _ => follows_pure _ _
  · refine follows_perform (.claim id _) fun _ => ?_
    refine follows_perform (.go id _ _) fun navigation => ?_
    exact follows_perform (.settle id (finalStatus_cases navigation) _) fun _ => follows_pure _ _

lemma follows_runExecutorOnce (h : options.execute = true) :
    executorProtocol.Follows .fresh (runExecutorOnce none options) := by
  rw [runExecutorOnce, if_neg (by simp)]
  refine follows_perform .look fun found => ?_
  cases found with
  | none => exact follows_pure _ _
  | some task =>
    refine follows_attempt (.read task.1) fun file => ?_
    dsimp only
    split
    · split_ifs
      · exact follows_perform (.giveUp task.1 _) fun _ => follows_pure _ _
      · exact follows_raise _ _
    · rw [if_pos h]
      exact follows_executeTask _ _ _ _

end Follows

/-- What an executor is answered from outside the table at its turn. -/
structure Outside where
  file : Except WmsError TaskPoints
  readyWait : Except WmsError ReadyWaitResult
  readyGate : Except WmsError ReadyGateResult
  navigation : Except WmsError NavigationResult
  now : UtcTime

def answerAmid (outside : Outside) : (request : Request) → Call Database request.Answer
  | .nextPendingTask => do return getNextPendingTask (← get).tasks
  | .readTaskPoints => orRaise outside.file
  | .updateStatus id status statusReason =>
    updateTaskStatus id status.value statusReason outside.now
  | .waitForReadyGate _ _ => orRaise outside.readyWait
  | .checkReadyGate => orRaise outside.readyGate
  | .navigateToPose _ _ => orRaise outside.navigation
  | .fetchTasks apiBaseUrl => respondTo (buildTasksEndpoint apiBaseUrl) listTasksEndpoint
  | .patchStatus apiBaseUrl taskId payload =>
    respondTo (buildTaskStatusEndpoint apiBaseUrl taskId)
      (patchTaskStatusEndpoint outside.now taskId payload)

inductive Event
  | claim (executor task : ℕ)
  | goal (executor task : ℕ)
  | putBack (task : ℕ)
  deriving DecidableEq

/-- The events of a run, the last one first. -/
structure World where
  crowd : Crowd Stage Request Request.Answer WmsError ExecutorResult Database
  trace : List Event

namespace World

def tasks (w : World) : TaskTable := w.crowd.shared.tasks

def stage (w : World) (i : ℕ) : Option Stage := (w.crowd.parties[i]?).map Prod.fst

def request (w : World) (i : ℕ) : Option Request :=
  match w.crowd.parties[i]? with
  | some (_, .ask request _) => some request
  | _ => none

/-- The task whose status the `i`-th executor is about to set, and the status. -/
def writes (w : World) (i : ℕ) : Option (ℕ × TaskStatus) :=
  match w.request i with
  | some (.updateStatus id status _) => some (id, status)
  | _ => none

end World

inductive Act
  | turn (executor : ℕ) (outside : Outside)
  | patch (now : UtcTime) (taskId : ℤ) (payload : Fields)

def asked (i : ℕ) (stage : Option Stage) : Option Request → List Event
  | some (.updateStatus id .running _) => [.claim i id]
  | some (.navigateToPose _ _) => (stage.bind Stage.task).toList.map (.goal i)
  | _ => []

def putBacks (before after : TaskTable) : List Event :=
  (after.rows.filter fun task => task.2.status = .pending ∧
    (before.find? task.1).any fun row => row.status ≠ .pending).map fun task => .putBack task.1

def patchWrites (taskId : ℤ) (payload : Fields) : Option (ℕ × TaskStatus) :=
  match payload.lookup "status", requestedStatusReason payload with
  | some (.string raw), .ok _ =>
    if taskId < 0 then none
    else (TaskStatus.ofValue? (strip raw)).map fun status => (taskId.toNat, status)
  | _, _ => none

def patched (w : World) (now : UtcTime) (taskId : ℤ) (payload : Fields) : Database :=
  final (patchTaskStatusEndpoint now taskId payload) w.crowd.shared

def act (w : World) : Act → World
  | .turn i outside =>
    let crowd := w.crowd.turn executorProtocol answerAmid i outside
    ⟨crowd, putBacks w.tasks crowd.shared.tasks ++ asked i (w.stage i) (w.request i) ++ w.trace⟩
  | .patch now taskId payload =>
    let database := patched w now taskId payload
    ⟨⟨database, w.crowd.parties⟩, putBacks w.tasks database.tasks ++ w.trace⟩

def opening (database : Database) (executors : List ExecutorOptions) : World where
  crowd :=
    { shared := database
      parties := executors.map fun options =>
        (.fresh, runExecutorOnce none { options with execute := true }) }
  trace := []

section Tables

variable {before after table : TaskTable} {id task : ℕ} {row : TaskRow} {f : TaskRow → TaskRow}

lemma mem_putBacks {event : Event} :
    event ∈ putBacks before after ↔ ∃ task row row', event = .putBack task ∧
      before.find? task = some row ∧ row.status ≠ .pending ∧
      after.find? task = some row' ∧ row'.status = .pending := by
  rw [putBacks, List.mem_map]
  constructor
  · rintro ⟨⟨task, row'⟩, hmem, rfl⟩
    obtain ⟨hrow', hturned⟩ := List.mem_filter.mp hmem
    simp only [Bool.decide_and, Bool.and_eq_true, decide_eq_true_eq, Option.any_eq_true] at hturned
    obtain ⟨hpending, row, hrow, hbefore⟩ := hturned
    exact ⟨task, row, row', rfl, hrow, hbefore, AutoTable.find?_of_mem hrow', hpending⟩
  · rintro ⟨task, row, row', rfl, hrow, hbefore, hrow', hpending⟩
    refine ⟨(task, row'), List.mem_filter.mpr ⟨AutoTable.mem_of_find? hrow', ?_⟩, rfl⟩
    simp [hpending, hrow, hbefore]

@[simp] lemma putBacks_self (table : TaskTable) : putBacks table table = [] := by
  refine List.eq_nil_iff_forall_not_mem.mpr fun event hevent => ?_
  obtain ⟨task, row, row', -, hrow, hbefore, hrow', hpending⟩ := mem_putBacks.mp hevent
  rw [hrow, Option.some.injEq] at hrow'
  exact hbefore (hrow' ▸ hpending)

end Tables

def Wrote (id : ℕ) (status : TaskStatus) (before after : TaskTable) : Prop :=
  ∃ row reason updatedAt, before.find? id = some row ∧
    after = before.update id (TaskRow.withStatus status reason updatedAt)

section Writes

variable {id task : ℕ} {status : TaskStatus} {before after : TaskTable} {row : TaskRow}

lemma Wrote.find?_self (h : Wrote id status before after) :
    ∃ row, after.find? id = some row ∧ row.status = status := by
  obtain ⟨row, reason, updatedAt, hrow, rfl⟩ := h
  refine ⟨row.withStatus status reason updatedAt, ?_, rfl⟩
  rw [AutoTable.find?_update, if_pos rfl, hrow, Option.map_some]

lemma Wrote.find?_other (h : Wrote id status before after) (htask : task ≠ id) :
    after.find? task = before.find? task := by
  obtain ⟨row, reason, updatedAt, -, rfl⟩ := h
  rw [AutoTable.find?_update, if_neg htask]

lemma ends_updateTaskStatus_wrote {database : Database} {text : String} {reason : Option String}
    {now : UtcTime} {Q : Task → Database → Prop} {E : Database → Prop}
    (hwrote : ∀ status task database', TaskStatus.ofValue? text = some status →
      Wrote id status database.tasks database'.tasks → Q task database') (hsame : E database) :
    Ends (updateTaskStatus id text reason now) database Q E := by
  rw [updateTaskStatus]
  split
  · exact hsame
  · rename_i status hstatus
    rw [ends_bind, ends_get]
    split
    · exact hsame
    · rename_i row hrow
      exact hwrote status _ _ hstatus ⟨row, reason, now.timestamp, hrow, rfl⟩

lemma patched_cases (w : World) (now : UtcTime) (taskId : ℤ) (payload : Fields) :
    (patched w now taskId payload).tasks = w.tasks ∨
      ∃ id status, patchWrites taskId payload = some (id, status) ∧
        Wrote id status w.tasks (patched w now taskId payload).tasks := by
  let P : Database → Prop := fun database => database.tasks = w.tasks ∨
    ∃ id status, patchWrites taskId payload = some (id, status) ∧
      Wrote id status w.tasks database.tasks
  have hsame : P w.crowd.shared := Or.inl rfl
  suffices h : Ends (patchTaskStatusEndpoint now taskId payload) w.crowd.shared (fun _ => P) P from
    h.final
  rw [patchTaskStatusEndpoint]
  split
  · rename_i raw hraw
    by_cases hfilled : Filled raw
    · rw [if_neg (not_not.mpr hfilled)]
      cases hreason : requestedStatusReason payload with
      | error e => exact hsame
      | ok reason =>
        rw [ends_bind, ends_orRaise_ok, ends_bind, ends_mapError,
          patchTaskStatusEndpoint.update]
        split_ifs with hid
        · exact hsame
        · refine ends_updateTaskStatus_wrote ?_ hsame
          intro status task database hstatus hwrote
          have hwrites : P database := by
            refine Or.inr ⟨taskId.toNat, status, ?_, hwrote⟩
            have hnonneg : ¬ taskId < 0 := fun h => hid ⟨h, by rw [hstatus]; rfl⟩
            simp [patchWrites, hraw, hreason, hnonneg, hstatus]
          exact ends_respond hwrites hwrites
    · rw [if_pos hfilled]
      exact hsame
  · exact hsame

end Writes

/-- What a turn of the `i`-th executor makes of its stage and of the table, and what it has asked
for. -/
inductive Moved (w : World) (i : ℕ) : Stage → TaskTable → List Event → Prop
  | look {task} (hstage : w.stage i = some .fresh)
      (hnext : getNextPendingTask w.tasks = some task) : Moved w i (.selected task.1) w.tasks []
  | keep {id} (hstage : w.stage i = some (.selected id)) : Moved w i (.selected id) w.tasks []
  | stop : Moved w i .finished w.tasks []
  | unclaimed {id} (hstage : w.stage i = some (.selected id)) :
      Moved w i .finished w.tasks [.claim i id]
  | claim {id tasks} (hstage : w.stage i = some (.selected id))
      (hwrites : w.writes i = some (id, .running))
      (hwrote : Wrote id .running w.tasks tasks) : Moved w i (.claimed id) tasks [.claim i id]
  | go {stage id} (hstage : w.stage i = some (.claimed id))
      (hafter : stage = .sent id ∨ stage = .finished) : Moved w i stage w.tasks [.goal i id]
  | write {stage id status tasks} (hstage : w.stage i = some stage)
      (htask : stage.task = some id) (hwrites : w.writes i = some (id, status))
      (hstatus : status ≠ .running ∧ status ≠ .canceled) (hwrote : Wrote id status w.tasks tasks) :
      Moved w i .finished tasks []

structure Turned (w : World) (i : ℕ) (w' : World) : Prop where
  busy : w.request i ≠ none
  moved : ∃ stage events, Moved w i stage w'.tasks events ∧ w'.stage i = some stage ∧
    w'.trace = putBacks w.tasks w'.tasks ++ events ++ w.trace
  others : ∀ j, j ≠ i → w'.stage j = w.stage j ∧ w'.request j = w.request j

section Turns

variable {w : World} {i : ℕ} {outside : Outside}

lemma same_of_orRaise {α : Type} {x : Except WmsError α} {database : Database} :
    Ends (orRaise x) database (fun _ shared => shared = database)
      (fun shared => shared = database) := by
  cases x <;> simp

lemma wrote_of_updateStatus {id : ℕ} {status : TaskStatus} {reason : Option String}
    {database : Database} : Ends (answerAmid outside (.updateStatus id status reason)) database
      (fun _ shared => Wrote id status database.tasks shared.tasks)
      (fun shared => shared = database) := by
  refine ends_updateTaskStatus_wrote ?_ rfl
  intro status' task database' hstatus hwrote
  rw [TaskStatus.ofValue?_value, Option.some.injEq] at hstatus
  exact hstatus ▸ hwrote

lemma writes_of_request {id : ℕ} {status : TaskStatus} {reason : Option String}
    (h : w.request i = some (.updateStatus id status reason)) :
    w.writes i = some (id, status) := by
  rw [World.writes, h]

lemma moved_answered {s : Stage} {q : Request} {a : q.Answer} {shared : Database}
    (hstage : w.stage i = some s) (hrequest : w.request i = some q) (hasks : s.Asks q)
    (hrun : (answerAmid outside q).run w.crowd.shared = .ok a shared) :
    Moved w i (s.after q (.ok a)) shared.tasks (asked i (some s) (some q)) := by
  cases hasks with
  | look =>
    cases hrun
    cases hnext : getNextPendingTask w.crowd.shared.tasks with
    | none => exact .stop
    | some task => exact .look hstage hnext
  | read id | wait id _ _ =>
    rw [same_of_orRaise.of_ok hrun]
    exact .keep hstage
  | go id pose timeoutSec =>
    rw [same_of_orRaise.of_ok hrun]
    exact .go hstage (Or.inl rfl)
  | claim id reason =>
    exact .claim hstage (writes_of_request hrequest) (wrote_of_updateStatus.of_ok hrun)
  | giveUp id reason | putBack id reason =>
    have hwrites := writes_of_request hrequest
    exact .write hstage rfl hwrites (by decide) (wrote_of_updateStatus.of_ok hrun)
  | settle id hstatus reason =>
    have hwrites := writes_of_request hrequest
    have hwrote := wrote_of_updateStatus.of_ok hrun
    rcases hstatus with rfl | rfl
    · exact .write hstage rfl hwrites (by decide) hwrote
    · exact .write hstage rfl hwrites (by decide) hwrote

lemma moved_refused {s : Stage} {q : Request} {e : WmsError} {shared : Database}
    (hstage : w.stage i = some s) (hasks : s.Asks q)
    (hrun : (answerAmid outside q).run w.crowd.shared = .error e shared) :
    Moved w i (s.after q (.error e)) shared.tasks (asked i (some s) (some q)) := by
  cases hasks with
  | look => cases hrun
  | read id =>
    rw [same_of_orRaise.of_error hrun]
    exact .keep hstage
  | wait id _ _ =>
    rw [same_of_orRaise.of_error hrun]
    exact .stop
  | go id _ _ =>
    rw [same_of_orRaise.of_error hrun]
    exact .go hstage (Or.inr rfl)
  | claim id reason =>
    rw [wrote_of_updateStatus.of_error hrun]
    exact .unclaimed hstage
  | giveUp id reason | putBack id reason =>
    rw [wrote_of_updateStatus.of_error hrun]
    exact .stop
  | settle id hstatus reason =>
    rw [wrote_of_updateStatus.of_error hrun]
    rcases hstatus with rfl | rfl
    · exact .stop
    · exact .stop

lemma stage_of_party {s : Stage} {program : Program ExecutorResult}
    (h : w.crowd.parties[i]? = some (s, program)) : w.stage i = some s := by
  rw [World.stage, h, Option.map_some]

lemma request_of_party {s : Stage} {q : Request}
    {next : Except WmsError q.Answer → Program ExecutorResult}
    (h : w.crowd.parties[i]? = some (s, .ask q next)) : w.request i = some q := by
  rw [World.request, h]

lemma turned_of_moved {s s' : Stage} {q : Request} {shared : Database}
    {next : Except WmsError q.Answer → Program ExecutorResult} {program : Program ExecutorResult}
    (hparty : w.crowd.parties[i]? = some (s, .ask q next))
    (hmoved : Moved w i s' shared.tasks (asked i (some s) (some q))) :
    Turned w i ⟨⟨shared, w.crowd.parties.set i (s', program)⟩,
      putBacks w.tasks shared.tasks ++ asked i (w.stage i) (w.request i) ++ w.trace⟩ := by
  have hstage := stage_of_party hparty
  have hrequest := request_of_party hparty
  refine ⟨by simp [hrequest], ⟨s', _, hmoved, ?_, ?_⟩, ?_⟩
  · simp [World.stage, Crowd.getElem?_set hparty]
  · rw [hstage, hrequest]
    rfl
  · intro j hj
    simp [World.stage, World.request, Crowd.getElem?_set hparty, hj]

lemma act_turn (h : w.crowd.Follows executorProtocol) (i : ℕ) (outside : Outside) :
    act w (.turn i outside) = w ∨ Turned w i (act w (.turn i outside)) := by
  rcases Crowd.turn_cases h i outside with ⟨hnone, hsame⟩ | hturn
  · left
    have hrequest : w.request i = none := by
      rw [World.request]
      split
      · rename_i hparty
        exact (hnone _ _ _ hparty).elim
      · rfl
    rw [act, hsame, hrequest]
    simp [World.tasks, asked]
  · right
    rw [act]
    generalize w.crowd.turn executorProtocol answerAmid i outside = crowd at hturn
    cases hturn with
    | answered hparty hasks hrun =>
      exact turned_of_moved hparty
        (moved_answered (stage_of_party hparty) (request_of_party hparty) hasks hrun)
    | refused hparty hasks hrun =>
      exact turned_of_moved hparty
        (moved_refused (stage_of_party hparty) hasks hrun)

lemma follows_act (h : w.crowd.Follows executorProtocol) (a : Act) :
    (act w a).crowd.Follows executorProtocol := by
  cases a with
  | turn i outside =>
    rcases Crowd.turn_cases h i outside with ⟨-, hsame⟩ | hturn
    · rw [act, hsame]
      exact h
    · exact hturn.follows h
  | patch now taskId payload => exact h

lemma follows_opening (database : Database) (executors : List ExecutorOptions) :
    (opening database executors).crowd.Follows executorProtocol := by
  intro party hparty
  obtain ⟨options, -, rfl⟩ := List.mem_map.mp hparty
  exact follows_runExecutorOnce rfl

end Turns

def amid (ready : Bool) : Outside where
  file := .ok (stationPoints (.integer 1))
  readyWait := .ok ⟨⟨ready, "Timed out waiting for /amcl_pose."⟩, 1, 0, !ready⟩
  readyGate := .ok ⟨ready, "Timed out waiting for /amcl_pose."⟩
  navigation := .ok ⟨true, "succeeded", "NavigateToPose result: SUCCEEDED."⟩
  now := ⟨2026, 5, 13, 9, 0, 30⟩

def stationWorld (executors : ℕ) : World :=
  opening ⟨stationTable, []⟩ (List.replicate executors {})

end Wms
