import AmrWarehouse.Fleet.Dispatcher

/-! The records and assignments that the objects of a fleet share, and the ways a call may change
them. -/

namespace Fleet

open Library

structure Board where
  robots : Dict String RobotRecord
  assignments : Dict ℤ AssignmentRecord

namespace Board

/-- A registry with these records; the process around it has no say in the choice of a robot. -/
def registry (board : Board) : RobotRegistry := ⟨board.robots, ⟨0, none⟩⟩

def Free (board : Board) (taskId : ℤ) : Prop :=
  ∀ held, board.assignments.get? taskId = some held → held.isActive = false

def CanAssign (env : Environment) (board : Board) (task : DispatchTask) (now : Datetime)
    (heartbeatTimeoutSec : Floating) (penalties : Dict String ℚ) : Prop :=
  board.Free task.taskId ∧ ∃ decision, FleetDispatcher.selectRobot env board.registry task now
    heartbeatTimeoutSec penalties = .ok (some decision)

end Board

def Takes (before after : Dict String RobotRecord) (robotId : String) (taskId : ℤ) : Prop :=
  ∃ robot moved, before.get? robotId = some robot ∧ robot.state = .idle ∧
    moved.robotId = robot.robotId ∧ moved.state = .assigned ∧ moved.currentTaskId = some taskId ∧
    after = before.set robotId moved

structure Binds (before after : Board) (taskId : ℤ) (assignment : AssignmentRecord) : Prop where
  free : before.Free taskId
  task_eq : assignment.taskId = taskId
  status_eq : assignment.status = .assigned
  assignments_eq : after.assignments = before.assignments.set taskId assignment
  robot : Takes before.robots after.robots assignment.robotId taskId

/-- A robot has been put on a free task, and no assignment tells of it. -/
structure Orphans (before after : Board) (taskId : ℤ) : Prop where
  free : before.Free taskId
  assignments_eq : after.assignments = before.assignments
  robot : ∃ robotId, Takes before.robots after.robots robotId taskId

def Syncs (before after : Dict ℤ AssignmentRecord) (taskId : ℤ) (status : AssignmentStatus) :
    Prop :=
  ∃ assignment updated, before.get? taskId = some assignment ∧ updated.status = status ∧
    updated.robotId = assignment.robotId ∧ after = before.set taskId updated

/-- The record of a robot may have moved on, with its task, but not out of work or into it. -/
def Touches (before after : Dict String RobotRecord) (robotId : String) : Prop :=
  after = before ∨ ∃ robot moved, before.get? robotId = some robot ∧
    moved.robotId = robot.robotId ∧ moved.currentTaskId = robot.currentTaskId ∧
    (moved.state = robot.state ∨ robot.state = .assigned ∧ moved.state = .busy) ∧
    after = before.set robotId moved

def Busies (before after : Dict String RobotRecord) (robotId : String) : Prop :=
  ∃ robot moved, before.get? robotId = some robot ∧ robot.state = .assigned ∧
    moved.robotId = robot.robotId ∧ moved.state = .busy ∧
    moved.currentTaskId = robot.currentTaskId ∧ after = before.set robotId moved

def Frees (before after : Dict String RobotRecord) (robotId : String) : Prop :=
  ∃ robot, before.get? robotId = some robot ∧
    (robot.state ∉ activeTaskStates ∧ after = before ∨
      robot.state ∈ activeTaskStates ∧ ∃ moved : RobotRecord, moved.robotId = robot.robotId ∧
        moved.state = .idle ∧ moved.currentTaskId = none ∧ after = before.set robotId moved)

/-- No robot has gone, none has come to work, and those at work keep their task. -/
structure Calm (before after : Dict String RobotRecord) : Prop where
  known : ∀ {robotId}, (before.get? robotId).isSome → (after.get? robotId).isSome
  working : ∀ {robotId moved}, after.get? robotId = some moved → moved.state ∈ activeTaskStates →
    ∃ robot, before.get? robotId = some robot ∧ robot.state ∈ activeTaskStates ∧
      robot.currentTaskId = moved.currentTaskId

lemma Calm.refl (robots : Dict String RobotRecord) : Calm robots robots :=
  ⟨fun h => h, fun h hactive => ⟨_, h, hactive, rfl⟩⟩

lemma Calm.set {robots : Dict String RobotRecord} {robotId : String} {robot moved : RobotRecord}
    (hget : robots.get? robotId = some robot)
    (hcalm : moved.state ∈ activeTaskStates →
      robot.state ∈ activeTaskStates ∧ robot.currentTaskId = moved.currentTaskId) :
    Calm robots (robots.set robotId moved) := by
  constructor
  · intro id hid
    exact Dict.isSome_get?_set _ _ _ _ hid
  · intro id other hother hactive
    rw [Dict.get?_set] at hother
    split at hother
    · subst id
      obtain rfl := Option.some.inj hother
      exact ⟨robot, hget, hcalm hactive⟩
    · exact ⟨other, hother, hactive, rfl⟩

def KeepsTasks (before after : Dict String RobotRecord) : Prop :=
  ∀ robotId robot, before.get? robotId = some robot →
    ∃ moved, after.get? robotId = some moved ∧ moved.currentTaskId = robot.currentTaskId

lemma KeepsTasks.refl (robots : Dict String RobotRecord) : KeepsTasks robots robots :=
  fun _ robot hget => ⟨robot, hget, rfl⟩

lemma KeepsTasks.set {robots : Dict String RobotRecord} {robotId : String}
    {robot moved : RobotRecord} (hget : robots.get? robotId = some robot)
    (htask : moved.currentTaskId = robot.currentTaskId) :
    KeepsTasks robots (robots.set robotId moved) := by
  intro id other hother
  rw [Dict.get?_set]
  split
  · subst id
    obtain rfl := Option.some.inj (hget.symm.trans hother)
    exact ⟨moved, rfl, htask⟩
  · exact ⟨other, hother, rfl⟩

/-- A record under its own key, with a task exactly where its state asks for one. Only a robot that
is offline or in error may or may not have a task. -/
structure Consistent (robots : Dict String RobotRecord) : Prop where
  named : ∀ {robotId robot}, robots.get? robotId = some robot → robot.robotId = robotId
  idle_free : ∀ {robotId robot}, robots.get? robotId = some robot → robot.state = .idle →
    robot.currentTaskId = none
  active_bound : ∀ {robotId robot}, robots.get? robotId = some robot →
    robot.state ∈ activeTaskStates → robot.currentTaskId ≠ none

lemma Consistent.set {robots : Dict String RobotRecord} (hc : Consistent robots) {robotId : String}
    {robot : RobotRecord} (hname : robot.robotId = robotId)
    (hidle : robot.state = .idle → robot.currentTaskId = none)
    (hactive : robot.state ∈ activeTaskStates → robot.currentTaskId ≠ none) :
    Consistent (robots.set robotId robot) := by
  constructor
  · intro id other h
    rw [Dict.get?_set] at h
    split at h
    · rw [← Option.some.inj h, hname]
      exact Eq.symm ‹_›
    · exact hc.named h
  · intro id other h
    rw [Dict.get?_set] at h
    split at h
    · rw [← Option.some.inj h]
      exact hidle
    · exact hc.idle_free h
  · intro id other h
    rw [Dict.get?_set] at h
    split at h
    · rw [← Option.some.inj h]
      exact hactive
    · exact hc.active_bound h

section Robots

variable {first second third : Dict String RobotRecord} {robotId : String}

lemma Touches.trans (h : Touches first second robotId) (h' : Touches second third robotId) :
    Touches first third robotId := by
  rcases h with rfl | ⟨robot, moved, hget, hname, htask, hstate, rfl⟩
  · exact h'
  · rcases h' with rfl | ⟨_, last, hget', hname', htask', hstate', rfl⟩
    · exact .inr ⟨robot, moved, hget, hname, htask, hstate, rfl⟩
    · rw [Dict.get?_set_self] at hget'
      obtain rfl := Option.some.inj hget'
      refine .inr ⟨robot, last, hget, hname'.trans hname, htask'.trans htask, ?_, by simp⟩
      rcases hstate with h | ⟨h, h1⟩ <;> rcases hstate' with h' | ⟨h', h1'⟩ <;> simp_all

lemma Touches.calm (h : Touches first second robotId) : Calm first second := by
  rcases h with rfl | ⟨robot, moved, hget, hname, htask, hstate, rfl⟩
  · exact Calm.refl _
  · apply Calm.set hget
    intro hactive
    refine ⟨?_, htask.symm⟩
    rcases hstate with h | ⟨h, _⟩
    · rwa [← h]
    · simp [h, activeTaskStates]

lemma Touches.keepsTasks (h : Touches first second robotId) : KeepsTasks first second := by
  rcases h with rfl | ⟨robot, moved, hget, _, htask, _, rfl⟩
  · exact KeepsTasks.refl _
  · exact KeepsTasks.set hget htask

lemma Frees.calm (h : Frees first second robotId) : Calm first second := by
  obtain ⟨robot, hget, ⟨_, rfl⟩ | ⟨_, moved, _, hstate, _, rfl⟩⟩ := h
  · exact Calm.refl _
  · apply Calm.set hget
    simp [hstate, activeTaskStates]

lemma Touches.get?_of_ne (h : Touches first second robotId) {id : String} (hne : id ≠ robotId) :
    second.get? id = first.get? id := by
  rcases h with rfl | ⟨_, moved, _, _, _, _, rfl⟩
  · rfl
  · exact Dict.get?_set_of_ne _ _ hne

lemma Frees.get?_of_ne (h : Frees first second robotId) {id : String} (hne : id ≠ robotId) :
    second.get? id = first.get? id := by
  obtain ⟨_, _, ⟨_, rfl⟩ | ⟨_, moved, _, _, _, rfl⟩⟩ := h
  · rfl
  · exact Dict.get?_set_of_ne _ _ hne

lemma Frees.not_working (h : Frees first second robotId) {moved : RobotRecord}
    (hget : second.get? robotId = some moved) : moved.state ∉ activeTaskStates := by
  obtain ⟨robot, hold, ⟨hidle, rfl⟩ | ⟨_, freed, _, hstate, _, rfl⟩⟩ := h
  · obtain rfl := Option.some.inj (hold.symm.trans hget)
    exact hidle
  · rw [Dict.get?_set_self] at hget
    obtain rfl := Option.some.inj hget
    simp [hstate, activeTaskStates]

lemma Busies.touches (h : Busies first second robotId) : Touches first second robotId := by
  obtain ⟨robot, moved, hget, hstate, hname, hmoved, htask, rfl⟩ := h
  exact .inr ⟨robot, moved, hget, hname, htask, .inr ⟨hstate, hmoved⟩, rfl⟩

lemma Frees.of_busies (h : Busies first second robotId) (h' : Frees second third robotId) :
    Frees first third robotId := by
  obtain ⟨robot, moved, hget, hstate, hname, hmoved, htask, rfl⟩ := h
  obtain ⟨_, hget', hrest⟩ := h'
  rw [Dict.get?_set_self] at hget'
  obtain rfl := Option.some.inj hget'
  rcases hrest with ⟨hidle, _⟩ | ⟨_, freed, hname', hidle, htask', rfl⟩
  · simp [hmoved, activeTaskStates] at hidle
  · have hactive : robot.state ∈ activeTaskStates := by simp [hstate, activeTaskStates]
    exact ⟨robot, hget, .inr ⟨hactive, freed, hname'.trans hname, hidle, htask', by simp⟩⟩

lemma Takes.consistent {taskId : ℤ} (hc : Consistent first)
    (h : Takes first second robotId taskId) : Consistent second := by
  obtain ⟨robot, moved, hget, _, hname, hstate, htask, rfl⟩ := h
  apply hc.set (hname.trans (hc.named hget))
  · simp [hstate]
  · simp [htask]

lemma Binds.consistent {before after : Board} {taskId : ℤ} {assignment : AssignmentRecord}
    (hc : Consistent before.robots) (h : Binds before after taskId assignment) :
    Consistent after.robots := h.robot.consistent hc

lemma Orphans.consistent {before after : Board} {taskId : ℤ} (hc : Consistent before.robots)
    (h : Orphans before after taskId) : Consistent after.robots := by
  obtain ⟨robotId, htakes⟩ := h.robot
  exact htakes.consistent hc

lemma Touches.consistent (hc : Consistent first) (h : Touches first second robotId) :
    Consistent second := by
  rcases h with rfl | ⟨robot, moved, hget, hname, htask, hstate, rfl⟩
  · exact hc
  · apply hc.set (hname.trans (hc.named hget))
    · intro hidle
      rw [htask]
      apply hc.idle_free hget
      rcases hstate with h | ⟨_, h⟩
      · rw [← h, hidle]
      · simp [h] at hidle
    · intro hactive
      rw [htask]
      apply hc.active_bound hget
      rcases hstate with h | ⟨h, _⟩
      · rwa [← h]
      · simp [h, activeTaskStates]

lemma Frees.consistent (hc : Consistent first) (h : Frees first second robotId) :
    Consistent second := by
  obtain ⟨robot, hget, ⟨_, rfl⟩ | ⟨_, moved, hname, hstate, htask, rfl⟩⟩ := h
  · exact hc
  · apply hc.set (hname.trans (hc.named hget))
    · intro _
      exact htask
    · simp [hstate, activeTaskStates]

lemma Takes.known {taskId : ℤ} (h : Takes first second robotId taskId) {id : String}
    (hid : (first.get? id).isSome) : (second.get? id).isSome := by
  obtain ⟨_, _, _, _, _, _, _, rfl⟩ := h
  exact Dict.isSome_get?_set _ _ _ _ hid

lemma Takes.ne {taskId : ℤ} (h : Takes first second robotId taskId) : second ≠ first := by
  obtain ⟨robot, moved, hget, hidle, _, hstate, _, rfl⟩ := h
  intro hsame
  have hmoved := Dict.get?_set_self first robotId moved
  rw [hsame, hget, Option.some.injEq] at hmoved
  rw [← hmoved, hidle] at hstate
  simp at hstate

lemma Takes.kept {taskId other : ℤ} (hc : Consistent first)
    (h : Takes first second robotId taskId) {id : String} {robot : RobotRecord}
    (hget : first.get? id = some robot) (htask : robot.currentTaskId = some other) :
    second.get? id = some robot := by
  obtain ⟨taken, _, htaken, hidle, _, _, _, rfl⟩ := h
  have hne : id ≠ robotId := by
    rintro rfl
    obtain rfl := Option.some.inj (htaken.symm.trans hget)
    rw [hc.idle_free hget hidle] at htask
    simp at htask
  rw [Dict.get?_set_of_ne _ _ hne, hget]

lemma Binds.known {before after : Board} {taskId : ℤ} {assignment : AssignmentRecord}
    (h : Binds before after taskId assignment) {id : String}
    (hid : (before.robots.get? id).isSome) : (after.robots.get? id).isSome := h.robot.known hid

lemma Orphans.known {before after : Board} {taskId : ℤ} (h : Orphans before after taskId)
    {id : String} (hid : (before.robots.get? id).isSome) : (after.robots.get? id).isSome := by
  obtain ⟨_, htakes⟩ := h.robot
  exact htakes.known hid

end Robots

section Assignments

variable {before after : Dict ℤ AssignmentRecord} {taskId : ℤ} {status : AssignmentStatus}

lemma Syncs.get?_of_ne (h : Syncs before after taskId status) {other : ℤ} (hne : other ≠ taskId) :
    after.get? other = before.get? other := by
  obtain ⟨_, updated, _, _, _, rfl⟩ := h
  exact Dict.get?_set_of_ne _ _ hne

lemma Syncs.get? (h : Syncs before after taskId status) {assignment : AssignmentRecord}
    (hget : before.get? taskId = some assignment) :
    ∃ updated, after.get? taskId = some updated ∧ updated.status = status ∧
      updated.robotId = assignment.robotId := by
  obtain ⟨old, updated, hold, hstatus, hrobot, rfl⟩ := h
  obtain rfl := Option.some.inj (hold.symm.trans hget)
  exact ⟨updated, Dict.get?_set_self _ _ _, hstatus, hrobot⟩

lemma Binds.get?_of_ne {before after : Board} {assignment : AssignmentRecord}
    (h : Binds before after taskId assignment) {other : ℤ} (hne : other ≠ taskId) :
    after.assignments.get? other = before.assignments.get? other := by
  rw [h.assignments_eq]
  exact Dict.get?_set_of_ne _ _ hne

lemma Binds.get?_self {before after : Board} {assignment : AssignmentRecord}
    (h : Binds before after taskId assignment) :
    after.assignments.get? taskId = some assignment := by
  rw [h.assignments_eq, Dict.get?_set_self]

lemma Binds.isActive {before after : Board} {assignment : AssignmentRecord}
    (h : Binds before after taskId assignment) : assignment.isActive := by
  simp [AssignmentRecord.isActive, h.status_eq, activeAssignmentStatuses]

end Assignments

end Fleet
