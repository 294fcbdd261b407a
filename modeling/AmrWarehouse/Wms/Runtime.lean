import AmrWarehouse.Wms.TaskTable

/-! The runtime of an executor, the clocks, and the wait for the ready gate. -/

namespace Wms

open Library

structure ReadyGateResult where
  ready : Bool
  reason : String
  deriving DecidableEq

structure NavigationResult where
  succeeded : Bool
  status : String
  reason : String
  deriving DecidableEq

structure ReadyWaitResult where
  readyGate : ReadyGateResult
  attempts : ℕ
  elapsedSec : ℚ
  timedOut : Bool
  deriving DecidableEq

/-- What the runtime does at its `n`-th gate check and at its `n`-th goal. -/
structure ExecutorRuntime where
  gates : ℕ → Except WmsError ReadyGateResult
  navigations : ℕ → Except WmsError NavigationResult

/-- What an executor meets: the task points file, the runtime, the UTC times it reads, and how far
the monotonic clock moves by itself at each of its uses. -/
structure Surroundings where
  file : Except WmsError TaskPoints
  runtime : ExecutorRuntime
  utc : ℕ → UtcTime
  drift : ℕ → ℚ≥0

/-- The monotonic clock, the gate checks made and the goals sent so far. -/
structure Course where
  now : ℚ := 0
  moments : ℕ := 0
  checks : ℕ := 0
  sent : List Pose := []
  deriving DecidableEq

variable (around : Surroundings)

def Course.elapse (duration : ℚ) (course : Course) : Course :=
  { course with
    now := course.now + duration + around.drift course.moments
    moments := course.moments + 1 }

def monotonic : Call Course ℚ := do
  modify (Course.elapse around 0)
  return (← get).now

/-- A `sleep_fn` that sleeps for as long as it is told. -/
def sleep (duration : ℚ) : Call Course Unit := modify (Course.elapse around duration)

/-- `time.sleep` counts nanoseconds in a signed 64-bit number. -/
def Sleepable (duration : ℚ) : Prop := duration * 10 ^ 9 < 2 ^ 63

instance (duration : ℚ) : Decidable (Sleepable duration) := inferInstanceAs (Decidable (_ < _))

def sleepOverflow : String := "timestamp too large to convert to C PyTime_t"

/-- `time.sleep`, where no other function is given. -/
def timeSleep (duration : ℚ) : Call Course Unit :=
  if Sleepable duration then sleep around duration else throw ⟨.overflowError, sleepOverflow⟩

def checkReadyGate : Call Course ReadyGateResult := do
  let course ← get
  set { course.elapse around 0 with checks := course.checks + 1 }
  orRaise (around.runtime.gates course.checks)

/-- The runtime alone decides what becomes of a goal within the timeout. -/
def navigateToPose (pose : Pose) (_timeoutSec : Floating) : Call Course NavigationResult := do
  let course ← get
  set { course.elapse around 0 with sent := course.sent ++ [pose] }
  orRaise (around.runtime.navigations course.sent.length)

def readyWaitResult (startTime : ℚ) (readyGate : ReadyGateResult) (attempts : ℕ) :
    Call Course ReadyWaitResult := do
  let now ← monotonic around
  return ⟨readyGate, attempts, max (now - startTime) 0, !readyGate.ready⟩

/-- The loop of the wait; `polls` bounds its iterations. -/
def pollReadyGate (sleepFn : ℚ → Call Course Unit) (startTime deadline pollIntervalSec : ℚ) :
    ℕ → ReadyGateResult → ℕ → Call Course ReadyWaitResult
  | 0, _, _ => throw ⟨.outOfFuel, "wait_for_execute_ready_gate"⟩
  | polls + 1, readyGate, attempts => do
    let now ← monotonic around
    if deadline ≤ now then readyWaitResult around startTime readyGate attempts
    else
      let now ← monotonic around
      let remainingSec := deadline - now
      if remainingSec ≤ 0 then readyWaitResult around startTime readyGate attempts
      else
        sleepFn
          (if 0 < pollIntervalSec then min pollIntervalSec remainingSec else remainingSec)
        let readyGate ← checkReadyGate around
        if readyGate.ready then readyWaitResult around startTime readyGate (attempts + 1)
        else pollReadyGate sleepFn startTime deadline pollIntervalSec polls readyGate (attempts + 1)

def pollBound (readyTimeoutSec pollIntervalSec : ℚ) : ℕ :=
  (if 0 < pollIntervalSec then ⌈max readyTimeoutSec 0 / pollIntervalSec⌉₊ else 1) + 1

def waitForExecuteReadyGate (readyTimeoutSec readyPollIntervalSec : ℚ)
    (sleepFn : ℚ → Call Course Unit := sleep around) : Call Course ReadyWaitResult := do
  let startTime ← monotonic around
  let readyGate ← checkReadyGate around
  if readyGate.ready then readyWaitResult around startTime readyGate 1
  else
    let pollIntervalSec := max readyPollIntervalSec 0
    pollReadyGate around sleepFn startTime (startTime + max readyTimeoutSec 0) pollIntervalSec
      (pollBound readyTimeoutSec pollIntervalSec) readyGate 1

end Wms
