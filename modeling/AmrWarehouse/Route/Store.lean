import AmrWarehouse.Library.Calls
import AmrWarehouse.Library.Dict
import AmrWarehouse.Route.VisualEvaluator
import AmrWarehouse.Wms.Runtime

/-! The results of a route, and the tables they are stored in. -/

namespace Route

open Library

abbrev Call (σ α : Type) := EStateM RouteError σ α

structure ExecutionFault where
  code : InspectionFaultCode
  reason : String
  deriving DecidableEq

structure PointResult where
  runId : String
  pointId : String
  sequence : ℤ
  status : InspectionPointStatus
  navigationResult : Wms.NavigationResult
  arrivalAccepted : Option Bool := none
  observation : Option ImageObservation := none
  capturedAtNs : Option ℤ := none
  freshAfterAcquisition : Option Bool := none
  evaluation : Option InspectionFindingLevel := none
  finding : Option VisualEvaluation := none
  severity : Option InspectionFindingLevel := none
  executionFault : Option ExecutionFault := none
  reason : String
  artifactRef : Option String := none
  artifactSha256 : Option String := none
  resultRef : Option String := none
  transitions : List TransitionEvent
  deriving DecidableEq

structure Summary where
  totalPoints : ℕ
  completedPoints : ℕ
  pass : ℕ
  warning : ℕ
  executionFailures : ℕ
  deriving DecidableEq, Repr

/-- A row of the runs; the summary is empty until the run is finished. -/
structure RunRow where
  robotId : String
  routeId : String
  status : String
  startedAt : String
  finishedAt : Option String := none
  resultSummary : Option Summary := none
  deriving DecidableEq

structure PointRow where
  sequence : ℤ
  status : String
  navigationResult : Wms.NavigationResult
  capturedAt : Option ℤ
  evaluation : Option InspectionFindingLevel
  severity : Option InspectionFindingLevel
  reason : String
  artifactRef : Option String
  resultRef : Option String
  deriving DecidableEq

/-- Every row of a point references its run. -/
structure InspectionStore where
  runs : Dict String RunRow
  pointResults : Dict (String × String) PointRow
  references : ∀ runId pointId,
    (pointResults.get? (runId, pointId)).isSome → (runs.get? runId).isSome

namespace InspectionStore

def empty : InspectionStore := ⟨.empty, .empty, by simp⟩

def withRun (store : InspectionStore) (runId : String) (row : RunRow) : InspectionStore where
  runs := store.runs.set runId row
  pointResults := store.pointResults
  references other pointId h := by
    rw [Dict.get?_set]
    split_ifs
    · rfl
    · exact store.references other pointId h

def withPoint (store : InspectionStore) (runId pointId : String) (row : PointRow)
    (h : (store.runs.get? runId).isSome) : InspectionStore where
  runs := store.runs
  pointResults := store.pointResults.set (runId, pointId) row
  references other otherPoint hrow := by
    rw [Dict.get?_set] at hrow
    split_ifs at hrow with hkey
    · cases hkey
      exact h
    · exact store.references other otherPoint hrow

end InspectionStore

def startRun (runId robotId routeId startedAt : String) : Call InspectionStore Unit := do
  let store ← get
  if (store.runs.get? runId).isSome then
    throw (.integrityError "UNIQUE constraint failed: inspection_runs.run_id")
  set (store.withRun runId
    { robotId := robotId, routeId := routeId, status := "running", startedAt := startedAt })

def pointRow (result : PointResult) : PointRow where
  sequence := result.sequence
  status := result.status.value
  navigationResult := result.navigationResult
  capturedAt := result.capturedAtNs
  evaluation := result.evaluation
  severity := result.severity
  reason := result.reason
  artifactRef := result.artifactRef
  resultRef := result.resultRef

/-- What fits into an `INTEGER` column. -/
def fitsInteger (n : ℤ) : Prop := -2 ^ 63 ≤ n ∧ n < 2 ^ 63

instance (n : ℤ) : Decidable (fitsInteger n) := inferInstanceAs (Decidable (_ ∧ _))

def persistPointResult (result : PointResult) : Call InspectionStore Unit := do
  if ¬ (fitsInteger result.sequence ∧ ∀ n ∈ result.capturedAtNs, fitsInteger n) then
    throw (.overflowError "Python int too large to convert to SQLite INTEGER")
  let store ← get
  if h : (store.runs.get? result.runId).isSome then
    set (store.withPoint result.runId result.pointId (pointRow result) h)
  else throw (.integrityError "FOREIGN KEY constraint failed")

def finishRun (runId status finishedAt : String) (summary : Summary) :
    Call InspectionStore Unit := do
  let store ← get
  match store.runs.get? runId with
  | none => throw (.keyError s!"Unknown inspection run: {runId}")
  | some row =>
    set (store.withRun runId
      { row with
        status := status, finishedAt := some finishedAt, resultSummary := some summary })

def getRun (store : InspectionStore) (runId : String) : Option RunRow := store.runs.get? runId

def listPointResults (store : InspectionStore) (runId : String) :
    List ((String × String) × PointRow) :=
  (store.pointResults.entries.filter fun entry => entry.1.1 = runId).insertionSort
    fun a b => a.2.sequence ≤ b.2.sequence

end Route
