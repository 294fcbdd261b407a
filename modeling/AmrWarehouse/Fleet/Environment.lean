import AmrWarehouse.Library.AutoTable
import AmrWarehouse.Library.Floating
import AmrWarehouse.Fleet.RobotState

/-! What the fleet layer takes from outside: the clock, timestamps, station points and the fleet
database file. -/

namespace Fleet

open Library

/-- Microseconds since the epoch, of an instant (aware) or of a wall clock without zone. -/
structure Datetime where
  aware : Bool
  micros : ℤ
  deriving DecidableEq, Repr

inductive Coordinate
  | whole (value : ℤ)
  | decimal (value : ℚ)
  deriving DecidableEq

structure StationPoint where
  x : Option Coordinate
  y : Option Coordinate

/-- `clock n` and `writeFails n` answer the `n`-th request of the process, for the time or for a
write, and `readFails n` the read that comes before it. `localTime` takes a wall clock of the
process to the instant it shows. -/
structure Environment where
  clock : ℕ → Datetime
  localTime : ℤ → Except String ℤ
  fromisoformat : String → Option Datetime
  utcIsoformat : Datetime → String
  hypot : ℚ → ℚ → ℚ
  taskPoints : Except FleetError (Dict String StationPoint)
  writeFails : ℕ → Bool
  readFails : ℕ → Bool

namespace Environment

/-- `now.astimezone(timezone.utc)`: UTC has no datetime before the year 1 or after the year 9999. -/
def astimezone (env : Environment) (now : Datetime) : Except FleetError Datetime :=
  match if now.aware then .ok now.micros else env.localTime now.micros with
  | .error message => .error ⟨.valueError, message⟩
  | .ok micros =>
    if -62135596800000000 ≤ micros ∧ micros < 253402300800000000 then .ok ⟨true, micros⟩
    else .error ⟨.overflowError, "date value out of range"⟩

def Converts (env : Environment) (now : Datetime) : Prop := ∃ utc, env.astimezone now = .ok utc

instance (env : Environment) (now : Datetime) : Decidable (env.Converts now) :=
  match h : env.astimezone now with
  | .ok utc => isTrue ⟨utc, h⟩
  | .error e => isFalse fun ⟨utc, hutc⟩ => by simp [h] at hutc

lemma kind_of_astimezone {env : Environment} {now : Datetime} {e : FleetError}
    (h : env.astimezone now = .error e) : e.kind = .valueError ∨ e.kind = .overflowError := by
  rw [astimezone] at h
  cases hinstant : if now.aware then .ok now.micros else env.localTime now.micros with
  | error message =>
    rw [hinstant] at h
    rw [← Except.error.inj h]
    exact .inl rfl
  | ok micros =>
    simp only [hinstant] at h
    split_ifs at h
    rw [← Except.error.inj h]
    exact .inr rfl

lemma utc_of_aware {env : Environment} {now utc : Datetime} (haware : now.aware = true)
    (h : env.astimezone now = .ok utc) : utc = now := by
  obtain ⟨aware, micros⟩ := now
  obtain rfl : aware = true := haware
  simp only [astimezone, if_true] at h
  split_ifs at h
  exact (Except.ok.inj h).symm

lemma not_converts {env : Environment} {now : Datetime} (h : ¬ env.Converts now) :
    ∃ e, env.astimezone now = .error e := by
  cases he : env.astimezone now with
  | ok utc => exact absurd ⟨utc, he⟩ h
  | error e => exact ⟨e, rfl⟩

def utcStamp (env : Environment) (now : Datetime) : String :=
  replaceText (env.utcIsoformat now) "+00:00" "Z"

def parseTimestamp (env : Environment) (value : String) : Except FleetError Datetime :=
  let normalized := replaceText value "Z" "+00:00"
  match env.fromisoformat normalized with
  | some moment => .ok moment
  | none => .error ⟨.valueError, s!"Invalid isoformat string: {quoted normalized}"⟩

structure Reliable (env : Environment) : Prop where
  writes : ∀ n, env.writeFails n = false
  reads : ∀ n, env.readFails n = false

end Environment

def totalSeconds (now seen : Datetime) : Except FleetError ℚ :=
  if now.aware = seen.aware then .ok (roundDouble ((now.micros - seen.micros : ℤ) / 1000000))
  else .error ⟨.typeError, "can't subtract offset-naive and offset-aware datetimes"⟩

structure RobotRow where
  robotId : String
  state : String
  currentTaskId : Option ℤ
  currentStation : Option String
  lastHeartbeat : Option String
  battery : ℚ
  updatedAt : String
  deriving DecidableEq

structure AssignmentRow where
  taskId : ℤ
  robotId : String
  pickupStation : String
  cost : ℚ
  dispatchReason : String
  status : String
  assignedAt : String
  updatedAt : String
  deriving DecidableEq

structure FleetDb where
  robots : Dict String RobotRow
  assignments : AutoTable AssignmentRow

structure Host where
  ticks : ℕ
  db : Option FleetDb

end Fleet
