import AmrWarehouse.Wms.Runtime

/-! The wait for the ready gate ends, with the result of its last check. -/

namespace Wms

open Library

def ExecutorRuntime.Responds (runtime : ExecutorRuntime) : Prop :=
  (∀ n, ∃ gate, runtime.gates n = .ok gate) ∧
    ∀ n, ∃ navigation, runtime.navigations n = .ok navigation

variable {around : Surroundings} {course course' : Course}

lemma le_elapse (duration : ℚ) : course.now + duration ≤ (course.elapse around duration).now := by
  simp [Course.elapse]

lemma le_elapse_zero : course.now ≤ (course.elapse around 0).now := by
  have h := @le_elapse around course 0
  rwa [add_zero] at h

def Covered (deadline pollIntervalSec : ℚ) (polls : ℕ) (now : ℚ) : Prop :=
  ∃ left, polls = left + 1 ∧
    if 0 < pollIntervalSec then deadline - now ≤ left * pollIntervalSec
    else deadline ≤ now ∨ 0 < left

lemma covered_start (readyTimeoutSec pollIntervalSec now : ℚ) :
    Covered (now + max readyTimeoutSec 0) pollIntervalSec
      (pollBound readyTimeoutSec pollIntervalSec) now := by
  refine ⟨_, rfl, ?_⟩
  split_ifs with h
  · rw [add_sub_cancel_left, ← div_le_iff₀ h]
    exact Nat.le_ceil _
  · right
    decide

lemma Covered.mono {deadline pollIntervalSec now now' : ℚ} {polls : ℕ}
    (h : Covered deadline pollIntervalSec polls now) (hnow : now ≤ now') :
    Covered deadline pollIntervalSec polls now' := by
  obtain ⟨left, hleft, hcovers⟩ := h
  refine ⟨left, hleft, ?_⟩
  split_ifs with hpoll
  · rw [if_pos hpoll] at hcovers
    linarith
  · rw [if_neg hpoll] at hcovers
    rcases hcovers with hlate | hmore
    · exact Or.inl (hlate.trans hnow)
    · exact Or.inr hmore

lemma Covered.slept {deadline pollIntervalSec now now' : ℚ} {polls : ℕ}
    (h : Covered deadline pollIntervalSec (polls + 1) now) (hbefore : now < deadline)
    (hnow : now + (if 0 < pollIntervalSec then min pollIntervalSec (deadline - now)
      else deadline - now) ≤ now') : Covered deadline pollIntervalSec polls now' := by
  obtain ⟨left, hleft, hcovers⟩ := h
  obtain rfl : polls = left := by omega
  by_cases hpoll : 0 < pollIntervalSec
  · rw [if_pos hpoll] at hcovers hnow
    cases polls with
    | zero =>
      norm_num at hcovers
      linarith
    | succ left =>
      refine ⟨left, rfl, ?_⟩
      rw [if_pos hpoll]
      push_cast at hcovers
      have hleft : 0 ≤ (left : ℚ) * pollIntervalSec := by positivity
      rcases min_choice pollIntervalSec (deadline - now) with hmin | hmin
      · rw [hmin] at hnow
        linarith
      · rw [hmin] at hnow
        linarith
  · rw [if_neg hpoll] at hcovers hnow
    rcases hcovers with hlate | hmore
    · exact absurd hbefore (not_lt.mpr hlate)
    · obtain ⟨left, rfl⟩ := Nat.exists_eq_succ_of_ne_zero hmore.ne'
      refine ⟨left, rfl, ?_⟩
      rw [if_neg hpoll]
      left
      linarith

structure Checked (around : Surroundings) (first attempts : ℕ) (course : Course)
    (gate : ReadyGateResult) : Prop where
  count : course.checks = first + attempts
  last : ∃ n, attempts = n + 1 ∧ around.runtime.gates (first + n) = .ok gate
  earlier : ∀ n, n + 1 < attempts →
    ∃ gate, around.runtime.gates (first + n) = .ok gate ∧ gate.ready = false

/-- How a wait ends that may make so many checks and may not give up before the limit. -/
structure Settled (around : Surroundings) (limit : ℚ) (bound : ℕ) (course : Course)
    (result : ReadyWaitResult) (course' : Course) : Prop where
  checked : Checked around course.checks result.attempts course' result.readyGate
  bounded : result.attempts ≤ bound
  timedOut : result.timedOut = !result.readyGate.ready
  elapsed : result.readyGate.ready = false → limit ≤ result.elapsedSec
  sent : course'.sent = course.sent

def Broken (around : Surroundings) (bound : ℕ) (course course' : Course) : Prop :=
  ∃ n e, course'.checks = course.checks + n + 1 ∧ n + 1 ≤ bound ∧
    around.runtime.gates (course.checks + n) = .error e

section Loop

variable {first attempts bound : ℕ} {gate : ReadyGateResult} {startTime deadline poll : ℚ}

lemma Checked.next (h : Checked around first attempts course gate) (hready : gate.ready = false)
    {next : ReadyGateResult} (hnext : around.runtime.gates course.checks = .ok next)
    (hcount : course'.checks = course.checks + 1) :
    Checked around first (attempts + 1) course' next := by
  refine ⟨by rw [hcount, h.count, add_assoc], ⟨attempts, rfl, h.count ▸ hnext⟩, ?_⟩
  intro n hn
  rcases Nat.lt_or_eq_of_le (Nat.le_of_lt_succ hn) with hearlier | rfl
  · exact h.earlier n hearlier
  · obtain ⟨m, hm, hgate⟩ := h.last
    obtain rfl : n = m := by omega
    exact ⟨gate, hgate, hready⟩

lemma ends_readyWaitResult (limit : ℚ) (start : Course)
    (hchecked : Checked around start.checks attempts course gate) (hbound : attempts ≤ bound)
    (hlate : gate.ready = false → startTime + limit ≤ course.now)
    (hsent : course.sent = start.sent) :
    Ends (readyWaitResult around startTime gate attempts) course
      (Settled around limit bound start) (Broken around bound start) := by
  simp only [readyWaitResult, monotonic, ends_bind, ends_modify, ends_get, ends_pure]
  refine ⟨⟨hchecked.count, hchecked.last, hchecked.earlier⟩, hbound, rfl, ?_, hsent⟩
  intro hready
  have hnow : course.now ≤ (course.elapse around 0).now := le_elapse_zero
  have hpassed := hlate hready
  exact le_max_of_le_left (by linarith)

lemma ends_pollReadyGate {polls : ℕ} {limit : ℚ} (start : Course)
    (hdeadline : deadline = startTime + limit) (hcovered : Covered deadline poll polls course.now)
    (hchecked : Checked around start.checks attempts course gate) (hready : gate.ready = false)
    (hbound : attempts + polls ≤ bound + 1) (hsent : course.sent = start.sent) :
    Ends (pollReadyGate around (sleep around) startTime deadline poll polls gate attempts) course
      (Settled around limit bound start) (Broken around bound start) := by
  induction polls generalizing course gate attempts with
  | zero =>
    obtain ⟨left, hleft, -⟩ := hcovered
    omega
  | succ polls ih =>
    simp only [pollReadyGate, monotonic, sleep, checkReadyGate, ends_bind, ends_modify, ends_get,
      ends_pure]
    set first := course.elapse around 0
    have hfirst : course.now ≤ first.now := le_elapse_zero
    by_cases hlate : deadline ≤ first.now
    · rw [if_pos hlate]
      exact ends_readyWaitResult _ start ⟨hchecked.count, hchecked.last, hchecked.earlier⟩
        (by omega) (fun _ => hdeadline ▸ hlate) hsent
    rw [if_neg hlate]
    simp only [ends_bind, ends_modify, ends_get, ends_pure]
    set second := first.elapse around 0
    have hsecond : first.now ≤ second.now := le_elapse_zero
    by_cases hgone : deadline - second.now ≤ 0
    · rw [if_pos hgone]
      exact ends_readyWaitResult _ start ⟨hchecked.count, hchecked.last, hchecked.earlier⟩
        (by omega) (fun _ => by linarith) hsent
    rw [if_neg hgone]
    simp only [ends_bind, ends_modify, ends_get, ends_set]
    set slept := second.elapse around
      (if 0 < poll then min poll (deadline - second.now) else deadline - second.now)
    have hslept : Covered deadline poll polls slept.now :=
      (hcovered.mono (hfirst.trans hsecond)).slept (by linarith) (le_elapse _)
    have hmore : 0 < polls := by
      obtain ⟨left, hleft, -⟩ := hslept
      omega
    cases hnext : around.runtime.gates slept.checks with
    | error e =>
      obtain ⟨n, hn, -⟩ := hchecked.last
      refine ⟨attempts, e, ?_, by omega, hchecked.count ▸ hnext⟩
      exact congrArg (· + 1) hchecked.count
    | ok next =>
      rw [ends_orRaise_ok]
      have hagain : Checked around start.checks (attempts + 1)
          { slept.elapse around 0 with checks := slept.checks + 1 } next :=
        hchecked.next hready hnext rfl
      by_cases hopen : next.ready = true
      · rw [if_pos hopen]
        exact ends_readyWaitResult _ start hagain (by omega) (fun hclosed => by simp_all) hsent
      · rw [if_neg hopen]
        exact ih (hslept.mono le_elapse_zero) hagain (by simpa using hopen) (by omega) hsent

end Loop

lemma settles_waitForExecuteReadyGate (readyTimeoutSec readyPollIntervalSec : ℚ) :
    Ends (waitForExecuteReadyGate around readyTimeoutSec readyPollIntervalSec) course
      (Settled around (max readyTimeoutSec 0)
        (pollBound readyTimeoutSec (max readyPollIntervalSec 0)) course)
      (Broken around (pollBound readyTimeoutSec (max readyPollIntervalSec 0)) course) := by
  simp only [waitForExecuteReadyGate, monotonic, checkReadyGate, ends_bind, ends_modify, ends_get,
    ends_pure, ends_set]
  set started := course.elapse around 0
  have hbound : 1 ≤ pollBound readyTimeoutSec (max readyPollIntervalSec 0) := Nat.le_add_left 1 _
  cases hgate : around.runtime.gates started.checks with
  | error e => exact ⟨0, e, rfl, hbound, hgate⟩
  | ok gate =>
    rw [ends_orRaise_ok]
    have hchecked : Checked around course.checks 1
        { started.elapse around 0 with checks := started.checks + 1 } gate :=
      ⟨rfl, ⟨0, rfl, hgate⟩, fun n hn => absurd hn (by omega)⟩
    by_cases hready : gate.ready = true
    · rw [if_pos hready]
      exact ends_readyWaitResult _ course hchecked hbound (fun hclosed => by simp_all) rfl
    · have hcovered : Covered (started.now + max readyTimeoutSec 0) (max readyPollIntervalSec 0)
          (pollBound readyTimeoutSec (max readyPollIntervalSec 0)) started.now :=
        covered_start _ _ _
      rw [if_neg hready]
      exact ends_pollReadyGate course rfl (hcovered.mono le_elapse_zero) hchecked
        (by simpa using hready) (Nat.add_comm 1 _).le rfl

def Waited (around : Surroundings) (course : Course) (result : ReadyWaitResult)
    (course' : Course) : Prop :=
  course'.sent = course.sent ∧ result.timedOut = !result.readyGate.ready ∧
    ∃ n, around.runtime.gates n = .ok result.readyGate

lemma ends_waitForExecuteReadyGate (hruntime : around.runtime.Responds)
    (readyTimeoutSec readyPollIntervalSec : ℚ) :
    Ends (waitForExecuteReadyGate around readyTimeoutSec readyPollIntervalSec) course
      (fun result course' => Waited around course result course') (fun _ => False) := by
  refine (settles_waitForExecuteReadyGate readyTimeoutSec readyPollIntervalSec).mono ?_ ?_
  · intro result course' h
    obtain ⟨n, -, hgate⟩ := h.checked.last
    exact ⟨h.sent, h.timedOut, _, hgate⟩
  · rintro course' ⟨n, e, -, -, hraised⟩
    obtain ⟨gate, hgate⟩ := hruntime.1 (course.checks + n)
    rw [hgate] at hraised
    cases hraised

lemma exists_run_waitForExecuteReadyGate (hruntime : around.runtime.Responds)
    (readyTimeoutSec readyPollIntervalSec : ℚ) (course : Course) : ∃ waited course',
      (waitForExecuteReadyGate around readyTimeoutSec readyPollIntervalSec).run course =
        .ok waited course' ∧ Waited around course waited course' :=
  (ends_waitForExecuteReadyGate hruntime readyTimeoutSec readyPollIntervalSec).run_ok

section TimeSleep

lemma Sleepable.mono {duration duration' : ℚ} (h : Sleepable duration)
    (hle : duration' ≤ duration) : Sleepable duration' := by
  rw [Sleepable] at h ⊢
  linarith

/-- No sleep of the wait is too long for `time.sleep`. -/
def Brief (readyTimeoutSec pollIntervalSec : ℚ) : Prop :=
  Sleepable readyTimeoutSec ∨ 0 < pollIntervalSec ∧ Sleepable pollIntervalSec

lemma Brief.sleepable {readyTimeoutSec pollIntervalSec remainingSec : ℚ}
    (h : Brief readyTimeoutSec pollIntervalSec) (hremaining : remainingSec ≤ readyTimeoutSec) :
    Sleepable (if 0 < pollIntervalSec then min pollIntervalSec remainingSec else remainingSec) := by
  rcases h with htimeout | ⟨hpoll, hinterval⟩
  · split_ifs
    · exact htimeout.mono ((min_le_right _ _).trans hremaining)
    · exact htimeout.mono hremaining
  · rw [if_pos hpoll]
    exact hinterval.mono (min_le_left _ _)

lemma run_monotonic : (monotonic around).run course =
    .ok (course.elapse around 0).now (course.elapse around 0) := rfl

lemma run_sleep (duration : ℚ) :
    (sleep around duration).run course = .ok () (course.elapse around duration) := rfl

lemma run_pollReadyGate_timeSleep {startTime deadline poll timeout : ℚ} {polls : ℕ}
    {gate : ReadyGateResult} {attempts : ℕ} (hbrief : Brief timeout poll)
    (hnow : deadline - course.now ≤ timeout) :
    (pollReadyGate around (timeSleep around) startTime deadline poll polls gate attempts).run
        course =
      (pollReadyGate around (sleep around) startTime deadline poll polls gate attempts).run
        course := by
  induction polls generalizing course gate attempts with
  | zero => rfl
  | succ polls ih =>
    have hfirst : course.now ≤ (course.elapse around 0).now := le_elapse_zero
    simp only [pollReadyGate, EStateM.run_bind, run_monotonic]
    by_cases hlate : deadline ≤ (course.elapse around 0).now
    · simp only [if_pos hlate]
    simp only [if_neg hlate, EStateM.run_bind, run_monotonic]
    set first := course.elapse around 0
    have hsecond : first.now ≤ (first.elapse around 0).now := le_elapse_zero
    by_cases hgone : deadline - (first.elapse around 0).now ≤ 0
    · simp only [if_pos hgone]
    set second := first.elapse around 0
    have hremaining : deadline - second.now ≤ timeout := by linarith
    set duration := if 0 < poll then min poll (deadline - second.now) else deadline - second.now
    have hduration : 0 ≤ duration := by
      simp only [duration]
      split_ifs with hpoll
      · exact le_min hpoll.le (not_le.mp hgone).le
      · exact (not_le.mp hgone).le
    have hsleep : timeSleep around duration = sleep around duration :=
      if_pos (hbrief.sleepable hremaining)
    simp only [if_neg hgone, EStateM.run_bind, hsleep, run_sleep, checkReadyGate, EStateM.run_get,
      EStateM.run_set]
    cases hgate : around.runtime.gates (second.elapse around duration).checks with
    | error e => rfl
    | ok gate =>
      simp only [run_orRaise_ok]
      by_cases hready : gate.ready = true
      · simp only [if_pos hready]
      · simp only [if_neg hready]
        have hslept : second.now + duration ≤ (second.elapse around duration).now := le_elapse _
        have hthird : (second.elapse around duration).now ≤
            ((second.elapse around duration).elapse around 0).now := le_elapse_zero
        refine ih ?_
        change deadline - ((second.elapse around duration).elapse around 0).now ≤ timeout
        linarith

lemma Brief.clamped {readyTimeoutSec readyPollIntervalSec : ℚ}
    (h : Brief readyTimeoutSec readyPollIntervalSec) :
    Brief (max readyTimeoutSec 0) (max readyPollIntervalSec 0) := by
  rcases h with htimeout | ⟨hpoll, hinterval⟩
  · left
    rcases max_choice readyTimeoutSec 0 with hmax | hmax
    · rwa [hmax]
    · rw [hmax, Sleepable]
      norm_num
  · rw [max_eq_left hpoll.le]
    exact Or.inr ⟨hpoll, hinterval⟩

lemma waitForExecuteReadyGate_timeSleep {readyTimeoutSec readyPollIntervalSec : ℚ}
    (h : Brief readyTimeoutSec readyPollIntervalSec) :
    waitForExecuteReadyGate around readyTimeoutSec readyPollIntervalSec (timeSleep around) =
      waitForExecuteReadyGate around readyTimeoutSec readyPollIntervalSec := by
  funext course
  change EStateM.run _ course = EStateM.run _ course
  simp only [EStateM.run_bind, run_monotonic, checkReadyGate, EStateM.run_get, EStateM.run_set]
  cases hgate : around.runtime.gates (course.elapse around 0).checks with
  | error e => rfl
  | ok gate =>
    simp only [run_orRaise_ok]
    by_cases hready : gate.ready = true
    · simp only [if_pos hready]
    · simp only [if_neg hready]
      refine run_pollReadyGate_timeSleep h.clamped ?_
      have hchecked : (course.elapse around 0).now ≤
          ((course.elapse around 0).elapse around 0).now := le_elapse_zero
      change (course.elapse around 0).now + max readyTimeoutSec 0 -
        ((course.elapse around 0).elapse around 0).now ≤ max readyTimeoutSec 0
      linarith

end TimeSleep

def checkBound (readyTimeoutSec readyPollIntervalSec : ℚ) : ℕ :=
  if 0 < readyPollIntervalSec then 1 + ⌈max readyTimeoutSec 0 / readyPollIntervalSec⌉₊ else 2

lemma pollBound_eq (readyTimeoutSec readyPollIntervalSec : ℚ) :
    pollBound readyTimeoutSec (max readyPollIntervalSec 0) =
      checkBound readyTimeoutSec readyPollIntervalSec := by
  by_cases hpoll : 0 < readyPollIntervalSec
  · rw [pollBound, checkBound, max_eq_left hpoll.le, if_pos hpoll, if_pos hpoll, add_comm]
  · rw [pollBound, checkBound, max_eq_right (not_lt.mp hpoll), if_neg (lt_irrefl 0), if_neg hpoll]

/-- The wait for the ready gate is bounded, and does not give up early. -/
theorem readyWait_settles (around : Surroundings) (readyTimeoutSec readyPollIntervalSec : ℚ)
    (course : Course) :
    Ends (waitForExecuteReadyGate around readyTimeoutSec readyPollIntervalSec) course
      (Settled around (max readyTimeoutSec 0) (checkBound readyTimeoutSec readyPollIntervalSec)
        course)
      (Broken around (checkBound readyTimeoutSec readyPollIntervalSec) course) := by
  rw [← pollBound_eq]
  exact settles_waitForExecuteReadyGate readyTimeoutSec readyPollIntervalSec

end Wms
