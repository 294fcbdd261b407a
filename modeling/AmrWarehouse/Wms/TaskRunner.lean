import AmrWarehouse.Wms.ExecutorRuns

/-! The task runner: executor runs one after another until the queue ends or something stops it. -/

namespace Wms

open Library

inductive StopReason
  | queueEmpty
  | maxTasksReached
  | dryRunSinglePass
  | terminalFailure
  | readyGateTimeout
  | taskNotConsumed
  | unexpectedOutcome
  deriving DecidableEq

def consumingOutcomes : List ExecutorOutcome := [.invalidTarget, .failed, .succeeded]

structure QueueOptions where
  execute : Bool := true
  executor : ExecutorOptions := {}
  maxTasks : ℤ := 0
  continueOnFailure : Bool := false
  deriving DecidableEq

structure Tally where
  runs : List ExecutorResult := []
  consumedTasks : ℕ := 0
  succeededTasks : ℕ := 0
  failedTasks : ℕ := 0
  exitCode : ℕ := 0
  deriving DecidableEq

structure QueueResult extends Tally where
  mode : ExecutorMode
  stopReason : StopReason
  deriving DecidableEq

namespace QueueResult

def executorRuns (result : QueueResult) : ℕ := result.runs.length

end QueueResult

variable {σ : Type}

def QueueOptions.stop (options : QueueOptions) (tally : Tally) (stopReason : StopReason) :
    QueueResult :=
  { tally with mode := if options.execute then .execute else .dryRun, stopReason := stopReason }

def afterRun (options : QueueOptions) (tally : Tally) (result : ExecutorResult) :
    Tally × Option StopReason :=
  let tally := { tally with
    runs := tally.runs ++ [result]
    exitCode := max tally.exitCode result.exitCode }
  if result.outcome = some .noPendingTask then (tally, some .queueEmpty)
  else if options.execute = false then (tally, some .dryRunSinglePass)
  else if result.outcome = some .succeeded then
    ({ tally with
        consumedTasks := tally.consumedTasks + 1
        succeededTasks := tally.succeededTasks + 1 }, none)
  else if result.outcome = some .failed ∨ result.outcome = some .invalidTarget then
    ({ tally with
        consumedTasks := tally.consumedTasks + 1
        failedTasks := tally.failedTasks + 1 },
      if options.continueOnFailure then none else some .terminalFailure)
  else if result.outcome = some .executeNotReadyTimeout then
    ({ tally with exitCode := max tally.exitCode 1 }, some .readyGateTimeout)
  else if ∀ outcome ∈ result.outcome, outcome ∉ consumingOutcomes then
    ({ tally with exitCode := max tally.exitCode 1 }, some .taskNotConsumed)
  else ({ tally with exitCode := max tally.exitCode 1 }, some .unexpectedOutcome)

/-- The loop of the runner; `turns` bounds its iterations. -/
def drainQueue (options : QueueOptions) (runOnce : Call σ ExecutorResult) :
    ℕ → Tally → Call σ QueueResult
  | 0, _ => throw ⟨.outOfFuel, "run_task_queue"⟩
  | turns + 1, tally => do
    if options.execute = true ∧ 0 < options.maxTasks ∧ options.maxTasks ≤ tally.consumedTasks then
      return options.stop tally .maxTasksReached
    else
      let result ← runOnce
      match afterRun options tally result with
      | (tally, some stopReason) => return options.stop tally stopReason
      | (tally, none) => drainQueue options runOnce turns tally

def runTaskQueue (around : Surroundings) (options : QueueOptions) : Call Site QueueResult := do
  if options.maxTasks < 0 then throw ⟨.valueError, "max_tasks must be >= 0."⟩
  else
    let turns := (pendingTasks (← get).database.tasks).length + 1
    drainQueue options (runOnce around { options.executor with execute := options.execute })
      turns {}

end Wms
