import AmrWarehouse.Wms.ExecutorRuns
import AmrWarehouse.Wms.HttpReader
import AmrWarehouse.Wms.Posting

/-! What the executor's requests to the API do to the table behind it. -/

namespace Wms

open Library

variable {around : Surroundings} {site : Site} {apiBaseUrl : String}

@[simp] lemma run_fetchJson : (fetchJson apiBaseUrl).run (answer around) =
    onDatabase (respondTo (buildTasksEndpoint apiBaseUrl) listTasksEndpoint) :=
  Process.run_perform _ _

@[simp] lemma run_patchJson (taskId : ℤ) (payload : Fields) :
    (patchJson apiBaseUrl taskId payload).run (answer around) = (do
      let now ← nowTimestamp around
      onDatabase (respondTo (buildTaskStatusEndpoint apiBaseUrl taskId)
        (patchTaskStatusEndpoint now taskId payload))) :=
  Process.run_perform _ _

section Fetch

variable {Q : Option ReportedTask → Site → Prop} {E : Site → Prop}

lemma ends_getNextPendingTaskViaHttp_of_ok {next : Option ReportedTask}
    (hfinite : (listTasks site.database.tasks).all (fun task => task.2.finite) = true)
    (hnext : nextPendingOf (tasksPayload site.database.tasks) = .ok next) (hq : Q next site) :
    Ends ((getNextPendingTaskViaHttp apiBaseUrl).run (answer around)) site Q E := by
  simp only [getNextPendingTaskViaHttp, Process.run_bind, run_fetchJson, onDatabase, respondTo,
    ends_bind, ends_focus, ends_mapError, listTasksEndpoint, ends_get, respond, if_pos hfinite,
    ends_pure, Process.run_orRaise]
  rw [← tasksPayload, hnext]
  exact hq

lemma ends_getNextPendingTaskViaHttp_of_error
    (h : (listTasks site.database.tasks).all (fun task => task.2.finite) = false ∨
      ∃ e, nextPendingOf (tasksPayload site.database.tasks) = .error e) (he : E site) :
    Ends ((getNextPendingTaskViaHttp apiBaseUrl).run (answer around)) site Q E := by
  simp only [getNextPendingTaskViaHttp, Process.run_bind, run_fetchJson, onDatabase, respondTo,
    ends_bind, ends_focus, ends_mapError, listTasksEndpoint, ends_get, respond,
    Process.run_orRaise]
  split_ifs with hfinite
  · rcases h with hnot | ⟨e, herror⟩
    · simp [hnot] at hfinite
    · rw [ends_pure, ← tasksPayload, herror]
      exact he
  · exact he

lemma run_getNextPendingTaskViaHttp {next : Option ReportedTask} {site' : Site}
    (h : ((getNextPendingTaskViaHttp apiBaseUrl).run (answer around)).run site = .ok next site') :
    site' = site ∧ (listTasks site.database.tasks).all (fun task => task.2.finite) = true ∧
      nextPendingOf (tasksPayload site.database.tasks) = .ok next := by
  cases hfinite : (listTasks site.database.tasks).all (fun task => task.2.finite) with
  | false =>
    have hends : Ends ((getNextPendingTaskViaHttp apiBaseUrl).run (answer around)) site
        (fun _ _ => False) (fun _ => True) :=
      ends_getNextPendingTaskViaHttp_of_error (Or.inl hfinite) trivial
    exact (hends.of_ok h).elim
  | true =>
    cases hnext : nextPendingOf (tasksPayload site.database.tasks) with
    | error e =>
      have hends : Ends ((getNextPendingTaskViaHttp apiBaseUrl).run (answer around)) site
          (fun _ _ => False) (fun _ => True) :=
        ends_getNextPendingTaskViaHttp_of_error (Or.inr ⟨e, hnext⟩) trivial
      exact (hends.of_ok h).elim
    | ok next' =>
      have hends : Ends ((getNextPendingTaskViaHttp apiBaseUrl).run (answer around)) site
          (fun found found' => found = next' ∧ found' = site) (fun _ => True) :=
        ends_getNextPendingTaskViaHttp_of_ok hfinite hnext ⟨rfl, rfl⟩
      obtain ⟨rfl, rfl⟩ := hends.of_ok h
      exact ⟨rfl, rfl, rfl⟩

end Fetch

section Update

variable {database : Database} {id : ℕ} {row : TaskRow} {reason : String}

lemma status_plain (status : TaskStatus) : Plain status.value := by
  cases status <;> decide +kernel

lemma dispatched_plain : Plain dispatched := by decide +kernel

lemma requestedStatusReason_payload (status : TaskStatus) (reason : String) :
    requestedStatusReason (statusPayload status (some reason)) =
      if Filled reason then .ok (some (strip reason))
      else .error ⟨400, "status_reason must not be blank when provided."⟩ := by
  have hlookup : (statusPayload status (some reason)).lookup "status_reason" =
      some (.string reason) := rfl
  rw [requestedStatusReason, hlookup]

lemma ends_patchTaskStatusEndpoint (hfind : database.tasks.find? id = some row)
    (hfinite : row.finite = true) (status : TaskStatus) (hreason : Filled reason) (now : UtcTime)
    {Q : Json → Database → Prop} {E : Database → Prop}
    (hq : Q (taskJson (id, row.withStatus status (some (strip reason)) now.timestamp))
      ⟨database.tasks.update id (TaskRow.withStatus status (some (strip reason)) now.timestamp),
        database.written ++ [(id, status)]⟩) :
    Ends (patchTaskStatusEndpoint now id (statusPayload status (some reason))) database Q E := by
  have hlookup : (statusPayload status (some reason)).lookup "status" =
      some (.string status.value) := rfl
  rw [patchTaskStatusEndpoint, hlookup]
  dsimp only
  rw [if_neg (not_not.mpr (status_plain status).1), requestedStatusReason_payload, if_pos hreason,
    ends_bind, ends_orRaise_ok, ends_bind, ends_mapError, (status_plain status).2,
    patchTaskStatusEndpoint.update, if_neg (by simp), Int.toNat_natCast]
  refine ends_of_ok (run_updateTaskStatus hfind status (some (strip reason)) now) ?_
  rw [respond, if_pos (by simpa [TaskRow.finite, TaskRow.withStatus] using hfinite)]
  exact hq

lemma ends_patchTaskStatusEndpoint_blank (status : TaskStatus) (hreason : ¬ Filled reason)
    (now : UtcTime) {Q : Json → Database → Prop} {E : Database → Prop} (he : E database) :
    Ends (patchTaskStatusEndpoint now id (statusPayload status (some reason))) database Q E := by
  have hlookup : (statusPayload status (some reason)).lookup "status" =
      some (.string status.value) := rfl
  rw [patchTaskStatusEndpoint, hlookup]
  dsimp only
  rw [if_neg (not_not.mpr (status_plain status).1), requestedStatusReason_payload, if_neg hreason]
  exact he

lemma ends_updateHttpTaskStatusOrFail_legible (hfind : site.database.tasks.find? id = some row)
    (hlegible : Legible row) (hfinite : row.finite = true) (result : ExecutorResult)
    (status : TaskStatus) (hreason : Filled reason)
    {Q : Except ExecutorResult ReportedTask → Site → Prop} {E : Site → Prop}
    (hq : Q (.ok (Task.asRead (id, row.withStatus status (some (strip reason))
        (around.utc site.stamped).timestamp))) (site.written around id status (strip reason))) :
    Ends ((updateHttpTaskStatusOrFail apiBaseUrl result id status reason).run (answer around))
      site Q E := by
  set row' := row.withStatus status (some (strip reason)) (around.utc site.stamped).timestamp
  have hcoerced : coerceHttpTask (taskJson (id, row')) (some status) =
      .ok (Task.asRead (id, row')) :=
    coerce_legible (hlegible.withStatus status _ (timestamp_plain _).1) rfl
  simp only [updateHttpTaskStatusOrFail, Process.run_bind, Process.run_attempt, ends_bind]
  apply ends_attempt_of_ok
  simp only [updateTaskStatusViaHttp, Process.run_bind, run_patchJson, nowTimestamp, onDatabase,
    respondTo, ends_bind, ends_get, ends_set, ends_pure, ends_focus, ends_mapError,
    Process.run_orRaise]
  refine ends_patchTaskStatusEndpoint hfind hfinite status hreason _ ?_
  rw [hcoerced]
  exact hq

end Update

end Wms
