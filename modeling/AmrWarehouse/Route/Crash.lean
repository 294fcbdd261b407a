import AmrWarehouse.Route.Accounting

/-! What a run leaves on record that an exception ends after its start. -/

namespace Route

open Library

def RouteState.runRow (runId : String) (state : RouteState) : Option RunRow :=
  state.store.bind fun store => getRun store runId

def RouteState.pointRows (runId : String) (state : RouteState) :
    List ((String × String) × PointRow) :=
  (state.store.map fun store => listPointResults store runId).getD []

section Runs

variable (around : RouteSurroundings) (options : RouteOptions)
  (points : List InspectionPointSpec)

def openRoute : Call RouteState RouteReport := do
  let startedAt ← utcNow around
  let (readyGate, readyWait) ← checkNav2 around options startedAt
  let (cameraReady, cameraReason) ← checkCamera around
  return {
    mode := "execute"
    runId := options.runId
    robotId := options.robotId
    routeId := "default_route"
    startedAt := startedAt
    status := .running
    preflight :=
      ⟨readyGate, cameraReady, cameraReason, around.imageCapture.topic, readyWait⟩
    summary := routeSummary [] points.length }

def Preflight.passed (preflight : Preflight) : Bool :=
  preflight.nav2.ready && preflight.cameraReady

def closeRoute (report : RouteReport) : Call RouteState RouteReport :=
  if report.preflight.passed then executeRoute around options points report
  else refuseRoute around options report

def succeededVisits : List InspectionPointSpec → RouteState → List PointResult
  | [], _ => []
  | point :: points, state =>
    match (visitPoint around options point).run state with
    | .ok (.ok result) visited => result :: succeededVisits points visited
    | _ => []

def succeededPoints (start : RouteState) : List PointResult :=
  match (openRoute around options points).run start with
  | .ok report opened =>
    if report.preflight.passed then succeededVisits around options points opened else []
  | .error _ _ => []

structure LosesNothing (start finish : RouteState) : Prop where
  closed : ∀ row, finish.runRow options.runId = some row → row.status ≠ "running"
  stored : ∀ result ∈ succeededPoints around options points start,
    (options.runId, result.pointId) ∈ (finish.pointRows options.runId).map Prod.fst

variable {points} in
lemma run_runInspectionRoute {start : RouteState} {store : InspectionStore}
    (hexecute : options.execute = true) (hpoints : points ≠ [])
    (hstore : start.store = some store) :
    (runInspectionRoute around options points).run start =
      (openRoute around options points >>= closeRoute around options points).run start := by
  have hnonempty : ¬ points.isEmpty := by
    rwa [List.isEmpty_iff]
  rw [runInspectionRoute, if_neg hnonempty, EStateM.run_bind, EStateM.run_get]
  dsimp only
  rw [if_neg (by simp [hstore]), openRoute]
  simp only [bind_assoc, pure_bind, hexecute, not_true_eq_false, if_true, if_false]
  rfl

end Runs

section Rows

variable (around : RouteSurroundings) (options : RouteOptions) {runId : String} {row : RunRow}

lemma keeps_runRow {α : Type} {m : Call RouteState α} {P : α → Prop}
    (h : Keeps RouteState.store m P) : Keeps (RouteState.runRow runId) m P :=
  h.part (fun store => store.bind fun store => getRun store runId) fun _ => rfl

lemma keeps_persistPointResult (result : PointResult) :
    Keeps InspectionStore.runs (persistPointResult result) fun _ => True := by
  intro store
  rw [persistPointResult]
  by_cases hfits : fitsInteger result.sequence ∧ ∀ n ∈ result.capturedAtNs, fitsInteger n
  · rw [if_neg (not_not.mpr hfits), ends_bind, ends_get]
    split_ifs
    · exact ⟨rfl, trivial⟩
    · rfl
  · rw [if_pos hfits]
    rfl

lemma keeps_onStore {call : Call InspectionStore Unit} {P : Unit → Prop}
    (h : Keeps InspectionStore.runs call P) :
    Keeps (RouteState.runRow runId) (onStore call) fun _ => True := by
  intro state
  cases hstore : state.store with
  | none =>
    rw [onStore, ends_bind, ends_get, hstore]
    rfl
  | some store =>
    have hsame : ∀ store', InspectionStore.runs store' = store.runs →
        RouteState.runRow runId { state with store := some store' } = state.runRow runId := by
      intro store' hruns
      simp [RouteState.runRow, hstore, getRun, hruns]
    rw [ends_onStore hstore]
    exact (h store).mono (fun _ store' h => ⟨hsame store' h.1, trivial⟩)
      (fun store' => hsame store')

lemma keeps_persistResult (result : PointResult) :
    Keeps (RouteState.runRow runId) (persistResult around options result) fun _ => True := by
  rw [persistResult]
  split
  · exact (keeps_onStore (keeps_persistPointResult _)).bind fun _ _ => .pure trivial
  · refine (keeps_runRow (keeps_store (keeps_writeJson around _ _))).discard.bind fun _ _ => ?_
    exact (keeps_onStore (keeps_persistPointResult _)).bind fun _ _ => .pure trivial

def LeavesRow (runId : String) (row : RunRow) {α : Type} (m : Call RouteState α) : Prop :=
  ∀ state, RouteState.runRow runId state = some row →
    Ends m state (fun _ _ => True) (fun state' => state'.runRow runId = some row)

lemma LeavesRow.after {α β : Type} {m : Call RouteState α} {P : α → Prop}
    {f : α → Call RouteState β} (hm : Keeps (RouteState.runRow runId) m P)
    (hf : ∀ a, LeavesRow runId row (f a)) : LeavesRow runId row (m >>= f) := by
  intro state h
  rw [ends_bind]
  refine (hm state).mono ?_ (fun _ hrow => hrow.trans h)
  rintro a state' ⟨hrow, -⟩
  exact hf a state' (hrow.trans h)

lemma leavesRow_finishRoute (report report' : RouteReport) (finishedAt : String) :
    LeavesRow options.runId row do
      finishRoute options report finishedAt
      return report' := by
  intro state h
  obtain ⟨store, hstore, hrow⟩ := Option.bind_eq_some_iff.mp h
  rw [getRun] at hrow
  rw [ends_bind, finishRoute, ends_onStore hstore, finishRun, ends_bind, ends_get, hrow]
  trivial

lemma leavesRow_executeRoute (points : List InspectionPointSpec) (report : RouteReport) :
    LeavesRow options.runId row (executeRoute around options points report) := by
  refine .after (keeps_runRow (keeps_visitPoints around options points)) fun visited => ?_
  refine .after (.mapM (keeps_persistResult around options) visited) fun pointResults => ?_
  refine .after (keeps_runRow (keeps_store (keeps_utcNow around))) fun finishedAt => ?_
  refine .after (keeps_runRow (keeps_store (keeps_writeJson around _ _)).discard) fun _ => ?_
  exact leavesRow_finishRoute options _ _ _

lemma leavesRow_refuseRoute (report : RouteReport) :
    LeavesRow options.runId row (refuseRoute around options report) := by
  refine .after (keeps_runRow (keeps_store (keeps_utcNow around))) fun finishedAt => ?_
  refine .after (keeps_runRow (keeps_store (keeps_writeJson around _ _))) fun reportRef => ?_
  exact leavesRow_finishRoute options _ _ _

lemma leavesRow_closeRoute (points : List InspectionPointSpec) (report : RouteReport) :
    LeavesRow options.runId row (closeRoute around options points report) := by
  rw [closeRoute]
  split_ifs
  · exact leavesRow_executeRoute around options points report
  · exact leavesRow_refuseRoute around options report

end Rows

section Crashes

variable (around : RouteSurroundings) (options : RouteOptions)
  (points : List InspectionPointSpec) {start : RouteState} {store : InspectionStore}

def Opened (runId : String) (state : RouteState) : Prop :=
  (∃ row, state.runRow runId = some row ∧ row.status = "running") ∧ state.pointRows runId = []

lemma Opened.of_store {runId : String} {state state' : RouteState} (h : Opened runId state)
    (hstore : state'.store = state.store) : Opened runId state' := by
  rwa [Opened, RouteState.runRow, RouteState.pointRows, hstore]

lemma opened_startRun (hfresh : getRun store runId = none) (robotId routeId startedAt : String)
    {state : RouteState} (hstate : state.store = some (store.withRun runId
      { robotId := robotId, routeId := routeId, status := "running", startedAt := startedAt })) :
    Opened runId state := by
  have hrows : listPointResults store runId = [] := by
    rw [listPointResults, ← rowsOf, rowsOf_fresh hfresh]
    rfl
  rw [Opened, RouteState.runRow, RouteState.pointRows, hstate]
  exact ⟨⟨_, Dict.get?_set_self _ _ _, rfl⟩, hrows⟩

lemma ends_checkNav2_opened (hexecute : options.execute = true) (hstore : start.store = some store)
    (hfresh : getRun store options.runId = none) (startedAt : String) :
    Ends (checkNav2 around options startedAt) start (fun _ opened => Opened options.runId opened)
      (Opened options.runId) := by
  have hunknown : ¬ (store.runs.get? options.runId).isSome := by
    rw [← getRun, hfresh]
    simp
  rw [checkNav2, if_pos hexecute, ends_bind, ends_onStore hstore, startRun, ends_bind, ends_get,
    if_neg hunknown]
  dsimp only
  rw [ends_set, ends_bind]
  have hopened : Opened options.runId { start with store := some (store.withRun options.runId
      { robotId := options.robotId, routeId := "default_route", status := "running"
        startedAt := startedAt }) } :=
    opened_startRun hfresh options.robotId "default_route" startedAt rfl
  refine (keeps_store (keeps_onCourse _) _).mono ?_ (fun state hstate => hopened.of_store hstate)
  rintro readyWait state ⟨hstate, -⟩
  exact hopened.of_store hstate

lemma ends_openRoute (hexecute : options.execute = true) (hstore : start.store = some store)
    (hfresh : getRun store options.runId = none) :
    Ends (openRoute around options points) start (fun _ opened => Opened options.runId opened)
      (Opened options.runId) := by
  rw [openRoute, ends_bind, utcNow, ends_bind, ends_get, ends_bind, ends_set, ends_pure, ends_bind]
  refine (ends_checkNav2_opened around options hexecute ?_ hfresh _).mono ?_ (fun _ h => h)
  · exact hstore
  · rintro gates state hopened
    rw [ends_bind]
    refine (keeps_store (keeps_checkCamera around) state).mono ?_
      (fun _ hstate => hopened.of_store hstate)
    rintro camera state' ⟨hstate, -⟩
    exact hopened.of_store hstate

lemma ends_closedRoute (hexecute : options.execute = true) (hstore : start.store = some store)
    (hfresh : getRun store options.runId = none) :
    Ends (openRoute around options points >>= closeRoute around options points) start
      (fun _ _ => True)
      (fun finish => ∃ row, finish.runRow options.runId = some row ∧ row.status = "running") := by
  rw [ends_bind]
  refine (ends_openRoute around options points hexecute hstore hfresh).mono ?_ (fun _ h => h.1)
  rintro report opened ⟨⟨row, hrow, hstatus⟩, -⟩
  exact (leavesRow_closeRoute around options points report opened hrow).mono
    (fun _ _ _ => trivial) (fun _ h => ⟨row, h, hstatus⟩)

lemma store_of_raising_visits {report : RouteReport} {opened finish : RouteState} {e : RouteError}
    (hpassed : report.preflight.passed)
    (hraises : raises (visitPoints around options points) opened)
    (hrun : (closeRoute around options points report).run opened = .error e finish) :
    finish.store = opened.store := by
  obtain ⟨e', state, hvisits⟩ := exists_of_raises hraises
  rw [closeRoute, if_pos hpassed, executeRoute, EStateM.run_bind, hvisits] at hrun
  cases hrun
  exact (keeps_visitPoints around options points opened).of_error hvisits

end Crashes

/-- A run that an exception ends after its start stays open, and if that happened on the way from
point to point, no point has a row. -/
theorem crashed_route_is_left_running (around : RouteSurroundings) (options : RouteOptions)
    (points : List InspectionPointSpec) (start finish : RouteState) (store : InspectionStore)
    (e : RouteError) (hexecute : options.execute = true) (hpoints : points ≠ [])
    (hstore : start.store = some store) (hfresh : getRun store options.runId = none)
    (hrun : (runInspectionRoute around options points).run start = .error e finish) :
    ¬ LosesNothing around options points start finish ∧
      (∃ row, finish.runRow options.runId = some row ∧ row.status = "running") ∧
      (∀ report opened, (openRoute around options points).run start = .ok report opened →
        report.preflight.passed → raises (visitPoints around options points) opened →
          finish.pointRows options.runId = []) := by
  rw [run_runInspectionRoute around options hexecute hpoints hstore] at hrun
  have hleft := (ends_closedRoute around options points hexecute hstore hfresh).of_error hrun
  obtain ⟨row, hrow, hstatus⟩ := hleft
  refine ⟨fun hloses => hloses.closed row hrow hstatus, ⟨row, hrow, hstatus⟩, ?_⟩
  intro report opened hopening hpassed hraises
  rw [EStateM.run_bind, hopening] at hrun
  have hopened := (ends_openRoute around options points hexecute hstore hfresh).of_ok hopening
  exact (hopened.of_store (store_of_raising_visits around options points hpassed hraises hrun)).2

def fullDisk : RouteSurroundings :=
  { defaultSurroundings with
    disk := fun n => if n = 2 then some (.fileError "No space left on device") else none }

def fullDiskRun : Call RouteState RouteReport :=
  runInspectionRoute fullDisk (defaultOptions true) defaultRoute

lemma fullDisk_raises : raises fullDiskRun defaultStart = true := by
  decide +kernel

lemma fullDisk_row : ((final fullDiskRun defaultStart).runRow (defaultOptions true).runId).map
    RunRow.status = some "running" := by
  decide +kernel

theorem first_point_is_lost :
    raises fullDiskRun defaultStart = true ∧
      (succeededPoints fullDisk (defaultOptions true) defaultRoute defaultStart).map
        PointResult.pointId = ["rack_a"] ∧
      (final fullDiskRun defaultStart).pointRows (defaultOptions true).runId = [] ∧
      ¬ LosesNothing fullDisk (defaultOptions true) defaultRoute defaultStart
        (final fullDiskRun defaultStart) := by
  refine ⟨fullDisk_raises, by decide +kernel, by decide +kernel, fun h => ?_⟩
  obtain ⟨row, hrow, hstatus⟩ := Option.map_eq_some_iff.mp fullDisk_row
  exact h.closed row hrow hstatus

theorem crashed_route_is_left_running_full_disk :
    ∃ e finish, fullDiskRun.run defaultStart = .error e finish ∧
      ¬ LosesNothing fullDisk (defaultOptions true) defaultRoute defaultStart finish ∧
      ∃ row, finish.runRow (defaultOptions true).runId = some row ∧ row.status = "running" := by
  obtain ⟨e, finish, hrun⟩ := exists_of_raises fullDisk_raises
  obtain ⟨hloses, hrow, -⟩ := crashed_route_is_left_running fullDisk (defaultOptions true)
    defaultRoute defaultStart finish .empty e rfl (by simp [defaultRoute]) rfl rfl hrun
  exact ⟨e, finish, hrun, hloses, hrow⟩

end Route
