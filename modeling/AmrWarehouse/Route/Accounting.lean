import AmrWarehouse.Route.Visits
import AmrWarehouse.Wms.ExecutorRuns

/-! The report of a route, the tables and the points it has visited agree. -/

namespace Route

open Library

/-- A route as it is loaded: every point once, numbered from one. -/
structure IsRoute (points : List InspectionPointSpec) : Prop where
  ne_nil : points ≠ []
  distinct : (points.map InspectionPointSpec.pointId).Nodup
  numbered : points.map InspectionPointSpec.sequence =
    (List.range points.length).map fun (n : ℕ) => (n : ℤ) + 1

/-- What a report of a run says, and what the store says about the run. -/
structure RouteAccounts (options : RouteOptions) (points : List InspectionPointSpec)
    (report : RouteReport) (store : InspectionStore) : Prop where
  begins : report.points.map (fun result => (result.pointId, result.sequence)) <+:
    points.map fun point => (point.pointId, point.sequence)
  succeeded_but_last : ∀ result ∈ report.points.dropLast, result.status = .succeeded
  paths : ∀ result ∈ report.points,
    Leads .pending (result.transitions.map TransitionEvent.status) result.status
  evaluated : report.summary.pass + report.summary.warning = report.summary.completedPoints
  counted : report.summary.completedPoints + report.summary.executionFailures =
    report.points.length
  warning_goes_on : ∀ before result, report.points = before ++ [result] →
    result.evaluation = some .warning → report.points.length = points.length
  status_iff : report.status = .succeeded ↔ ∀ point ∈ points, ∃ result ∈ report.points,
    result.pointId = point.pointId ∧ result.status = .succeeded
  run_row : ∃ row, getRun store options.runId = some row ∧ row.status = report.status.value ∧
    row.resultSummary = some report.summary
  point_rows : listPointResults store options.runId =
    report.points.map fun result => ((options.runId, result.pointId), pointRow result)

section Tables

variable {store : InspectionStore} {runId : String} {result : PointResult}

lemma ends_onStore {state : RouteState} (h : state.store = some store)
    {call : Call InspectionStore Unit} {Q : Unit → RouteState → Prop} {E : RouteState → Prop} :
    Ends (onStore call) state Q E ↔
      Ends call store (fun a store => Q a { state with store := some store })
        (fun store => E { state with store := some store }) := by
  rw [onStore, ends_bind, ends_get, h]
  dsimp only
  rw [ends_focus, h, Option.getD_some]

def rowsOf (store : InspectionStore) (runId : String) : List ((String × String) × PointRow) :=
  store.pointResults.entries.filter fun entry => entry.1.1 = runId

lemma rowsOf_withPoint (hrun : (store.runs.get? runId).isSome) {pointId : String} {row : PointRow}
    (hfresh : pointId ∉ (rowsOf store runId).map fun entry => entry.1.2) :
    rowsOf (store.withPoint runId pointId row hrun) runId =
      rowsOf store runId ++ [((runId, pointId), row)] := by
  have hkey : (runId, pointId) ∉ store.pointResults.entries.map Prod.fst := by
    intro hmem
    obtain ⟨entry, hentry, heq⟩ := List.mem_map.mp hmem
    refine hfresh (List.mem_map.mpr ⟨entry, List.mem_filter.mpr ⟨hentry, ?_⟩, ?_⟩)
    · simp [heq]
    · rw [heq]
  simp [rowsOf, InspectionStore.withPoint, Dict.set, putEntry_of_not_mem _ _ _ hkey]

def Recorded (runId : String) (results : List PointResult) (state : RouteState) : Prop :=
  ∃ store, state.store = some store ∧ (store.runs.get? runId).isSome ∧
    rowsOf store runId = results.map fun result => ((runId, result.pointId), pointRow result)

lemma ends_persist {state : RouteState} {results : List PointResult}
    (h : Recorded runId results state) (hrun : result.runId = runId)
    (hfresh : result.pointId ∉ results.map PointResult.pointId) :
    Ends (onStore (persistPointResult result)) state
      (fun _ state' => Recorded runId (results ++ [result]) state') (fun _ => True) := by
  obtain ⟨store, hstore, hknown, hrows⟩ := h
  subst hrun
  rw [ends_onStore hstore, persistPointResult]
  by_cases hfits : fitsInteger result.sequence ∧ ∀ n ∈ result.capturedAtNs, fitsInteger n
  · rw [if_neg (not_not.mpr hfits), ends_bind, ends_get, dif_pos hknown]
    refine ⟨_, rfl, hknown, ?_⟩
    rw [rowsOf_withPoint hknown, hrows, List.map_append]
    · rfl
    · rw [hrows, List.map_map]
      exact hfresh
  · rw [if_pos hfits]
    trivial

end Tables

section Persistence

variable (around : RouteSurroundings) (options : RouteOptions)

def Referenced (result result' : PointResult) : Prop :=
  ∃ resultRef, result' = { result with resultRef := resultRef }

lemma ends_persistResult {state : RouteState} {results : List PointResult} {result : PointResult}
    (h : Recorded options.runId results state) (hrun : result.runId = options.runId)
    (hfresh : result.pointId ∉ results.map PointResult.pointId) :
    Ends (persistResult around options result) state
      (fun result' state' => Referenced result result' ∧
        Recorded options.runId (results ++ [result']) state') (fun _ => True) := by
  rw [persistResult]
  split
  · rw [ends_bind]
    refine (ends_persist h hrun hfresh).mono ?_ (fun _ _ => trivial)
    exact fun _ state' hrecorded => ⟨⟨_, rfl⟩, hrecorded⟩
  · dsimp only
    rw [ends_bind]
    refine ((keeps_store (keeps_writeJson around _ _)).discard state).mono ?_ (fun _ _ => trivial)
    rintro - written ⟨hstore, -⟩
    have hwritten : Recorded options.runId results written := by
      rwa [Recorded, hstore]
    rw [ends_bind]
    refine Ends.mono (ends_persist hwritten ?_ ?_) ?_ (fun _ _ => trivial)
    · exact hrun
    · exact hfresh
    · exact fun _ state' hrecorded => ⟨⟨_, rfl⟩, hrecorded⟩

lemma Referenced.accounted {runId : String} {point : InspectionPointSpec}
    {result result' : PointResult} (h : Referenced result result')
    (haccounted : Accounted runId point result) : Accounted runId point result' := by
  obtain ⟨resultRef, rfl⟩ := h
  exact ⟨haccounted.runId_eq, haccounted.pointId_eq, haccounted.sequence_eq, haccounted.path,
    haccounted.evaluated, haccounted.unevaluated⟩

lemma Covers.referenced {runId : String} {points : List InspectionPointSpec}
    {results results' : List PointResult} (h : Covers runId points results)
    (href : List.Forall₂ Referenced results results') : Covers runId points results' := by
  induction h generalizing results' with
  | done =>
    cases href
    exact .done
  | failed haccounted hfailed =>
    cases href with
    | cons hfirst hrest =>
      cases hrest
      refine .failed (hfirst.accounted haccounted) ?_
      obtain ⟨resultRef, rfl⟩ := hfirst
      exact hfailed
  | next haccounted hsucceeded _ ih =>
    cases href with
    | cons hfirst hrest =>
      refine .next (hfirst.accounted haccounted) ?_ (ih hrest)
      obtain ⟨resultRef, rfl⟩ := hfirst
      exact hsucceeded

lemma map_pointId_referenced {results results' : List PointResult}
    (h : List.Forall₂ Referenced results results') :
    results'.map PointResult.pointId = results.map PointResult.pointId := by
  induction h with
  | nil => rfl
  | cons hfirst _ ih =>
    obtain ⟨resultRef, rfl⟩ := hfirst
    rw [List.map_cons, List.map_cons, ih]

lemma ends_persistResults {state : RouteState} {results : List PointResult}
    (h : Recorded options.runId [] state)
    (hrun : ∀ result ∈ results, result.runId = options.runId)
    (hdistinct : (results.map PointResult.pointId).Nodup) :
    Ends (results.mapM (persistResult around options)) state
      (fun results' state' => List.Forall₂ Referenced results results' ∧
        Recorded options.runId results' state') (fun _ => True) := by
  refine ends_mapM (fun seen persisted state' => List.Forall₂ Referenced seen persisted ∧
    Recorded options.runId persisted state') ⟨.nil, h⟩ ?_
  rintro seen persisted result rest state' rfl ⟨href, hrecorded⟩
  have hfresh : result.pointId ∉ persisted.map PointResult.pointId := by
    rw [map_pointId_referenced href]
    rw [List.map_append, List.map_cons, List.nodup_middle, List.nodup_cons] at hdistinct
    exact fun hseen => hdistinct.1 (List.mem_append_left _ hseen)
  refine (ends_persistResult around options hrecorded (hrun result (by simp)) hfresh).mono ?_
    (fun _ _ => trivial)
  rintro result' state'' ⟨hfirst, hrecorded'⟩
  exact ⟨List.rel_append href (.cons hfirst .nil), hrecorded'⟩

def Finished (runId : String) (report : RouteReport) (state : RouteState) : Prop :=
  ∃ store row, state.store = some store ∧ getRun store runId = some row ∧
    row.status = report.status.value ∧ row.resultSummary = some report.summary ∧
    rowsOf store runId = report.points.map fun result => ((runId, result.pointId), pointRow result)

lemma ends_finishRoute {state : RouteState} {report : RouteReport} {finishedAt : String}
    (h : Recorded options.runId report.points state) :
    Ends (finishRoute options report finishedAt) state
      (fun _ state' => Finished options.runId report state') (fun _ => True) := by
  obtain ⟨store, hstore, hknown, hrows⟩ := h
  obtain ⟨row, hrow⟩ := Option.isSome_iff_exists.mp hknown
  rw [finishRoute, ends_onStore hstore, finishRun, ends_bind, ends_get, hrow]
  exact ⟨_, _, rfl, Dict.get?_set_self _ _ _, rfl, rfl, hrows⟩

end Persistence

section Reports

variable {options : RouteOptions} {points : List InspectionPointSpec} {report : RouteReport}
  {store : InspectionStore}

lemma Covers.sequences {runId : String} {results : List PointResult}
    (h : Covers runId points results) :
    results.map PointResult.sequence <+: points.map InspectionPointSpec.sequence := by
  have hbegins := h.begins.map Prod.snd
  rwa [List.map_map, List.map_map] at hbegins

lemma Covers.pointIds {runId : String} {results : List PointResult}
    (h : Covers runId points results) :
    results.map PointResult.pointId <+: points.map InspectionPointSpec.pointId := by
  have hbegins := h.begins.map Prod.fst
  rwa [List.map_map, List.map_map] at hbegins

lemma Covers.nodup (hroute : IsRoute points) {runId : String} {results : List PointResult}
    (h : Covers runId points results) : (results.map PointResult.pointId).Nodup :=
  hroute.distinct.sublist h.pointIds.sublist

lemma Covers.pairwise (hroute : IsRoute points) {runId : String} {results : List PointResult}
    (h : Covers runId points results) :
    (results.map fun result => ((runId, result.pointId), pointRow result)).Pairwise
      fun a b => a.2.sequence ≤ b.2.sequence := by
  have hnumbers : (points.map InspectionPointSpec.sequence).Pairwise (· ≤ ·) := by
    rw [hroute.numbered, List.pairwise_map]
    refine List.pairwise_lt_range.imp fun hlt => ?_
    omega
  have hresults := hnumbers.sublist h.sequences.sublist
  rw [List.pairwise_map] at hresults ⊢
  exact hresults

lemma Covers.all_iff (hroute : IsRoute points) {runId : String} {results : List PointResult}
    (h : Covers runId points results) :
    (results.length = points.length ∧ ∀ result ∈ results, result.status = .succeeded) ↔
      ∀ point ∈ points, ∃ result ∈ results,
        result.pointId = point.pointId ∧ result.status = .succeeded := by
  constructor
  · rintro ⟨hlength, hall⟩ point hpoint
    have hids : results.map PointResult.pointId = points.map InspectionPointSpec.pointId :=
      h.pointIds.eq_of_length (by rw [List.length_map, List.length_map, hlength])
    have hmem : point.pointId ∈ results.map PointResult.pointId :=
      hids ▸ List.mem_map_of_mem hpoint
    obtain ⟨result, hresult, hid⟩ := List.mem_map.mp hmem
    exact ⟨result, hresult, hid, hall result hresult⟩
  · intro hpoints
    have hall : ∀ result ∈ results, result.status = .succeeded := by
      intro result hresult
      obtain ⟨point, hpoint, haccounted⟩ := h.accounted hresult
      obtain ⟨other, hother, hid, hsucceeded⟩ := hpoints point hpoint
      have hsame := List.inj_on_of_nodup_map (h.nodup hroute) hother hresult
        (hid.trans haccounted.pointId_eq.symm)
      exact hsame ▸ hsucceeded
    exact ⟨h.length_eq hall, hall⟩

lemma routeSummary_counted (results : List PointResult) (total : ℕ) :
    (routeSummary results total).completedPoints +
      (routeSummary results total).executionFailures = results.length := by
  rw [List.length_eq_countP_add_countP (fun result => decide (result.status = .succeeded))]
  simp [routeSummary]

lemma routeSummary_evaluated {results : List PointResult} (total : ℕ)
    (h : ∀ result ∈ results, ∃ runId point, Accounted runId point result) :
    (routeSummary results total).pass + (routeSummary results total).warning =
      (routeSummary results total).completedPoints := by
  simp only [routeSummary]
  induction results with
  | nil => rfl
  | cons result results ih =>
    have hrest := ih fun other hother => h other (List.mem_cons_of_mem _ hother)
    obtain ⟨runId, point, haccounted⟩ := h result List.mem_cons_self
    simp only [List.countP_cons]
    by_cases hstatus : result.status = .succeeded
    · rcases haccounted.evaluated hstatus with heval | heval
      · simp [hstatus, heval]
        omega
      · simp [hstatus, heval]
        omega
    · simp [hstatus, haccounted.unevaluated hstatus]
      omega

lemma accounts_executed (hroute : IsRoute points)
    (hcovers : Covers options.runId points report.points)
    (hsummary : report.summary = routeSummary report.points points.length)
    (hstatus : report.status = .succeeded ↔ report.points.length = points.length ∧
      ∀ result ∈ report.points, result.status = .succeeded)
    (hfinished : ∃ row, getRun store options.runId = some row ∧
      row.status = report.status.value ∧ row.resultSummary = some report.summary)
    (hrows : rowsOf store options.runId =
      report.points.map fun result => ((options.runId, result.pointId), pointRow result)) :
    RouteAccounts options points report store where
  begins := hcovers.begins
  succeeded_but_last result hresult := by
    obtain ⟨front, back, hfront⟩ := List.append_of_mem hresult
    have hne : report.points ≠ [] := by
      rintro hnil
      simp [hnil] at hresult
    have hlater : report.points = front ++ result :: (back ++ [report.points.getLast hne]) := by
      rw [← List.cons_append, ← List.append_assoc, ← hfront, List.dropLast_append_getLast]
    exact hcovers.succeeded_of_later hlater (by simp)
  paths result hresult := by
    obtain ⟨point, -, haccounted⟩ := hcovers.accounted hresult
    exact haccounted.path
  evaluated := by
    rw [hsummary]
    refine routeSummary_evaluated _ fun result hresult => ?_
    obtain ⟨point, -, haccounted⟩ := hcovers.accounted hresult
    exact ⟨_, point, haccounted⟩
  counted := by
    rw [hsummary]
    exact routeSummary_counted _ _
  warning_goes_on before result hresults hwarning := by
    refine hcovers.stopped hresults ?_
    have hmem : result ∈ report.points := by simp [hresults]
    obtain ⟨point, -, haccounted⟩ := hcovers.accounted hmem
    by_contra hfailed
    rw [haccounted.unevaluated hfailed] at hwarning
    cases hwarning
  status_iff := hstatus.trans (hcovers.all_iff hroute)
  run_row := hfinished
  point_rows := by
    rw [listPointResults, ← rowsOf, hrows]
    exact (hcovers.pairwise hroute).insertionSort_eq

lemma accounts_refused (hroute : IsRoute points) (hpoints : report.points = [])
    (hsummary : report.summary = routeSummary [] points.length) (hstatus : report.status = .failed)
    (hfinished : ∃ row, getRun store options.runId = some row ∧
      row.status = report.status.value ∧ row.resultSummary = some report.summary)
    (hrows : rowsOf store options.runId = []) : RouteAccounts options points report store where
  begins := by simp [hpoints]
  succeeded_but_last := by simp [hpoints]
  paths := by simp [hpoints]
  evaluated := by simp [hsummary, routeSummary]
  counted := by simp [hsummary, routeSummary, hpoints]
  warning_goes_on before result h := by simp [hpoints] at h
  status_iff := by
    obtain ⟨point, hpoint⟩ := List.exists_mem_of_ne_nil _ hroute.ne_nil
    rw [hstatus, hpoints]
    constructor
    · intro h
      cases h
    · intro h
      obtain ⟨result, hresult, -⟩ := h point hpoint
      simp at hresult
  run_row := hfinished
  point_rows := by
    rw [listPointResults, ← rowsOf, hrows, hpoints]
    rfl

end Reports

section Runs

variable (around : RouteSurroundings) (options : RouteOptions) (points : List InspectionPointSpec)

lemma Recorded.of_store {runId : String} {results : List PointResult} {state state' : RouteState}
    (h : Recorded runId results state) (hstore : state'.store = state.store) :
    Recorded runId results state' := by
  rwa [Recorded, hstore]

def Accounts (report : RouteReport) (state : RouteState) : Prop :=
  ∃ store, state.store = some store ∧ RouteAccounts options points report store

lemma ends_executeRoute (hroute : IsRoute points) {state : RouteState}
    (h : Recorded options.runId [] state) (report : RouteReport) :
    Ends (executeRoute around options points report) state (Accounts options points)
      (fun _ => True) := by
  rw [executeRoute, ends_bind]
  refine (keeps_visitPoints around options points state).mono ?_ (fun _ _ => trivial)
  rintro visited state₁ ⟨hstore₁, hvisited⟩
  rw [ends_bind]
  have hrunIds : ∀ result ∈ visited, result.runId = options.runId := by
    intro result hresult
    obtain ⟨point, -, haccounted⟩ := hvisited.accounted hresult
    exact haccounted.runId_eq
  refine (ends_persistResults around options (h.of_store hstore₁) hrunIds
    (hvisited.nodup hroute)).mono ?_ (fun _ _ => trivial)
  rintro pointResults state₂ ⟨href, hrecorded⟩
  have hcovers := hvisited.referenced href
  rw [ends_bind]
  refine (keeps_store (keeps_utcNow around) state₂).mono ?_ (fun _ _ => trivial)
  rintro finishedAt state₃ ⟨hstore₃, -⟩
  dsimp only
  rw [ends_bind]
  refine ((keeps_store (keeps_writeJson around _ _)).discard state₃).mono ?_ (fun _ _ => trivial)
  rintro - state₄ ⟨hstore₄, -⟩
  rw [ends_bind]
  refine Ends.mono (ends_finishRoute options ?_) ?_ (fun _ _ => trivial)
  · exact (hrecorded.of_store hstore₃).of_store hstore₄
  · rintro - state₅ ⟨store, row, hstore, hrow, hstatus, hsummary, hrows⟩
    refine ⟨store, hstore, accounts_executed hroute hcovers rfl ?_
      ⟨row, hrow, hstatus, hsummary⟩ hrows⟩
    dsimp only
    split_ifs with hall
    · exact iff_of_true rfl hall
    · exact iff_of_false (by decide) hall

lemma ends_refuseRoute (hroute : IsRoute points) {state : RouteState}
    (h : Recorded options.runId [] state) {report : RouteReport} (hpoints : report.points = [])
    (hsummary : report.summary = routeSummary [] points.length) :
    Ends (refuseRoute around options report) state (Accounts options points) (fun _ => True) := by
  rw [refuseRoute]
  dsimp only
  rw [ends_bind]
  refine (keeps_store (keeps_utcNow around) state).mono ?_ (fun _ _ => trivial)
  rintro finishedAt state₁ ⟨hstore₁, -⟩
  rw [ends_bind]
  refine (keeps_store (keeps_writeJson around _ _) state₁).mono ?_ (fun _ _ => trivial)
  rintro reportRef state₂ ⟨hstore₂, -⟩
  rw [ends_bind]
  refine Ends.mono (ends_finishRoute options ?_) ?_ (fun _ _ => trivial)
  · rw [hpoints]
    exact (h.of_store hstore₁).of_store hstore₂
  · rintro - state₃ ⟨store, row, hstore, hrow, hstatus, hsummary', hrows⟩
    refine ⟨store, hstore, accounts_refused hroute hpoints hsummary rfl
      ⟨row, hrow, hstatus, hsummary'⟩ ?_⟩
    rw [hrows, hpoints]
    rfl

lemma rowsOf_fresh {store : InspectionStore} {runId : String} (h : getRun store runId = none) :
    rowsOf store runId = [] := by
  rw [rowsOf, List.filter_eq_nil_iff]
  rintro ⟨⟨otherId, pointId⟩, row⟩ hentry hsame
  have hid : otherId = runId := by simpa using hsame
  have hknown := store.references otherId pointId
    ((Dict.mem_keys _ _).mp (List.mem_map_of_mem hentry))
  rw [getRun] at h
  rw [hid, h] at hknown
  simp at hknown

lemma ends_checkNav2 (hexecute : options.execute = true) {state : RouteState}
    {store : InspectionStore} (hstore : state.store = some store)
    (hfresh : getRun store options.runId = none) (startedAt : String) :
    Ends (checkNav2 around options startedAt) state
      (fun _ state' => Recorded options.runId [] state') (fun _ => True) := by
  have hunknown : ¬ (store.runs.get? options.runId).isSome := by
    rw [← getRun, hfresh]
    simp
  rw [checkNav2, if_pos hexecute, ends_bind, ends_onStore hstore, startRun, ends_bind, ends_get,
    if_neg hunknown]
  have hstarted : Recorded options.runId []
      { state with store := some (store.withRun options.runId
        { robotId := options.robotId, routeId := "default_route", status := "running"
          startedAt := startedAt }) } := by
    have hrows : rowsOf store options.runId = [] := rowsOf_fresh hfresh
    exact ⟨_, rfl, by simp [InspectionStore.withRun], hrows⟩
  dsimp only
  rw [ends_set, ends_bind]
  refine (keeps_store (keeps_onCourse _) _).mono ?_ (fun _ _ => trivial)
  rintro - state' ⟨hstore', -⟩
  exact hstarted.of_store hstore'

lemma ends_runInspectionRoute (hexecute : options.execute = true) (hroute : IsRoute points)
    {state : RouteState} {store : InspectionStore} (hstore : state.store = some store)
    (hfresh : getRun store options.runId = none) :
    Ends (runInspectionRoute around options points) state (Accounts options points)
      (fun _ => True) := by
  have hpoints : ¬ points.isEmpty := by
    rw [List.isEmpty_iff]
    exact hroute.ne_nil
  rw [runInspectionRoute, if_neg hpoints, ends_bind, ends_get, if_neg (by simp [hstore]), ends_bind]
  refine (keeps_store (keeps_utcNow around) state).mono ?_ (fun _ _ => trivial)
  rintro startedAt state₁ ⟨hstore₁, -⟩
  rw [ends_bind]
  refine (ends_checkNav2 around options hexecute (hstore₁.trans hstore) hfresh startedAt).mono ?_
    (fun _ _ => trivial)
  rintro ⟨readyGate, readyWait⟩ state₂ hrecorded
  dsimp only
  rw [ends_bind]
  refine (keeps_store (keeps_checkCamera around) state₂).mono ?_ (fun _ _ => trivial)
  rintro ⟨cameraReady, cameraReason⟩ state₃ ⟨hstore₃, -⟩
  have hrecorded₃ := hrecorded.of_store hstore₃
  dsimp only
  rw [if_neg (not_not.mpr hexecute)]
  split_ifs
  · exact ends_executeRoute around options points hroute hrecorded₃ _
  · exact ends_refuseRoute around options points hroute hrecorded₃ rfl rfl

def RouteState.effects (state : RouteState) :
    (Option InspectionStore × List (List String × FileContent)) × List Wms.Pose :=
  (state.record, state.course.sent)

lemma keeps_checkReadyGate :
    Keeps RouteState.effects (onCourse (Wms.checkReadyGate around.nav2)) fun _ => True := by
  intro state
  rw [onCourse, ends_mapError, ends_focus, Wms.checkReadyGate, ends_bind, ends_get, ends_bind,
    ends_set]
  cases around.nav2.runtime.gates state.course.checks with
  | ok readyGate => exact ⟨rfl, trivial⟩
  | error e => rfl

lemma keeps_dryRun (hdry : options.execute = false) :
    Keeps RouteState.effects (runInspectionRoute around options points) fun _ => True := by
  rw [runInspectionRoute]
  by_cases hpoints : points.isEmpty
  · rw [if_pos hpoints]
    exact .throw _
  rw [if_neg hpoints]
  have hget : Keeps RouteState.effects (get : Call RouteState RouteState) fun _ => True :=
    fun _ => ⟨rfl, trivial⟩
  refine hget.bind fun state _ => ?_
  rw [if_neg (by simp [hdry])]
  have hnow : Keeps RouteState.effects (utcNow around) fun _ => True := fun _ => ⟨rfl, trivial⟩
  refine hnow.bind fun startedAt _ => ?_
  have hnav2 : Keeps RouteState.effects (checkNav2 around options startedAt) fun _ => True := by
    rw [checkNav2, if_neg (by simp [hdry])]
    exact (keeps_checkReadyGate around).bind fun readyGate _ => .pure trivial
  refine hnav2.bind fun gates _ => ?_
  have hcamera : Keeps RouteState.effects (checkCamera around) fun _ => True :=
    fun _ => ⟨rfl, trivial⟩
  refine hcamera.bind fun camera _ => ?_
  dsimp only
  rw [if_pos (by simp [hdry])]
  exact .pure trivial

end Runs

/-- The report of a run that executes and what is stored of it account for the visits of the
points; a dry run sends no goal and writes nothing. -/
theorem route_accounting_agrees (around : RouteSurroundings) (options : RouteOptions)
    (points : List InspectionPointSpec) (start : RouteState) :
    (options.execute = true → IsRoute points → ∀ store, start.store = some store →
      getRun store options.runId = none → ∀ report finish,
        (runInspectionRoute around options points).run start = .ok report finish →
          ∃ store', finish.store = some store' ∧ RouteAccounts options points report store') ∧
    (options.execute = false →
      (final (runInspectionRoute around options points) start).effects = start.effects) := by
  constructor
  · intro hexecute hroute store hstore hfresh report finish hrun
    exact (ends_runInspectionRoute around options points hexecute hroute hstore hfresh).of_ok hrun
  · intro hdry
    exact (keeps_dryRun around options points hdry).final start

lemma map_filled : Filled "map" := by
  decide +kernel

def redPoint (pointId : String) (sequence : ℤ) (h : Filled pointId) (hpos : 1 ≤ sequence) :
    InspectionPointSpec where
  pointId := pointId
  sequence := sequence
  frameId := "map"
  x := .finite 1
  y := .finite 2
  yaw := .finite 0
  imageTopic := "/camera/image_raw"
  stabilizationSec := .finite 1
  redRatioThreshold := .finite (1 / 4)
  pointId_filled := h
  frameId_filled := map_filled
  sequence_pos := hpos
  pose_finite := by decide
  imageTopic_absolute := by decide +kernel
  stabilization_not_negative := by decide +kernel
  threshold_in_range := by decide +kernel

def defaultRoute : List InspectionPointSpec :=
  [redPoint "rack_a" 1 (by decide +kernel) (by decide),
    redPoint "rack_b" 2 (by decide +kernel) (by decide)]

def defaultSurroundings : RouteSurroundings where
  nav2 := Wms.willingSurroundings (.integer 1)
  imageCapture :=
    { topic := "/camera/image_raw"
      checks := fun _ => (true, "camera publisher available")
      captures := fun n => .ok
        { topic := "/camera/image_raw"
          frameId := "camera_link"
          capturedAtNs := 20
          receivedAtNs := 30
          acquisitionStartedAtNs := 10
          width := 1
          height := 1
          encoding := "BGR8"
          step := 4
          data := if n = 0 then [0, 0, 200, 0] else [0, 0, 0, 0] } }
  utcNow _ := "2026-05-13T09:00:00.000000Z"
  timeNs n := n
  disk _ := none
  uri path := "file:///" ++ "/".intercalate path
  codecs := ⟨fun bytes => bytes, fun _ => 0, fun _ => "", fun m n => m / n⟩

def defaultOptions (execute : Bool) : RouteOptions where
  runId := "inspection-run-20260513T090000Z"
  robotId := "my_robot"
  execute := execute

def defaultStart : RouteState where
  store := some .empty

theorem route_accounting_agrees_default_route :
    (∃ report finish store',
      (runInspectionRoute defaultSurroundings (defaultOptions true) defaultRoute).run defaultStart =
        .ok report finish ∧ finish.store = some store' ∧
        RouteAccounts (defaultOptions true) defaultRoute report store') ∧
    (final (runInspectionRoute defaultSurroundings (defaultOptions false) defaultRoute)
      defaultStart).effects = defaultStart.effects := by
  have hroute : IsRoute defaultRoute :=
    ⟨by simp [defaultRoute], by decide +kernel, by decide +kernel⟩
  refine ⟨?_, (route_accounting_agrees _ (defaultOptions false) _ _).2 rfl⟩
  have hreturns : raises (runInspectionRoute defaultSurroundings (defaultOptions true) defaultRoute)
      defaultStart = false := by
    decide +kernel
  obtain ⟨report, finish, hrun⟩ := exists_of_returns hreturns
  obtain ⟨store', hstore, haccounts⟩ :=
    (route_accounting_agrees defaultSurroundings (defaultOptions true) defaultRoute defaultStart).1
      rfl hroute .empty rfl rfl report finish hrun
  exact ⟨report, finish, store', hrun, hstore, haccounts⟩

end Route
