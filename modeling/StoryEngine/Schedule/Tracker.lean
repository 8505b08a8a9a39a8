import StoryEngine.Schedule.Resolve

/-! # Counting repeats

The tracker remembers for each actor how often the action of its active event has fired since the
event began. Another activation is counted from zero again.
-/

namespace StoryEngine

set_option autoImplicit false

structure Activation where
  minute : Nat
  dynamic : Bool
deriving DecidableEq

structure FiringCount where
  activation : Activation
  fired : Nat
deriving DecidableEq

abbrev ScheduleTracker := StringMap FiringCount

namespace ScheduleTracker

def fired (tracker : ScheduleTracker) (actor : String) : Nat :=
  ((tracker.get? actor).map (·.fired)).getD 0

/-- Whether the action fires once more: the next interval has passed, and it has not fired as often
as it may. An interval of zero repeats nothing. -/
def isDue (row : ScheduleRow) (sinceStart fired : Nat) : Bool :=
  match row.repeatInterval with
  | none => false
  | some interval =>
    0 < interval && row.repeatCount.all (fired < ·) && interval * (fired + 1) ≤ sinceStart

theorem fired_lt_of_isDue {row : ScheduleRow} {sinceStart fired : Nat}
    (h : isDue row sinceStart fired = true) : fired < sinceStart := by
  unfold isDue at h
  split at h
  · cases h
  · next interval _ =>
    simp only [Bool.and_eq_true, decide_eq_true_eq] at h
    exact Nat.le_trans (Nat.le_mul_of_pos_left (fired + 1) h.1.1) h.2

/-- Fires until nothing more is due. -/
def catchUp (row : ScheduleRow) (sinceStart fired : Nat) : Nat :=
  if isDue row sinceStart fired then catchUp row sinceStart (fired + 1) else fired
termination_by sinceStart - fired
decreasing_by
  next h =>
    have hlt := fired_lt_of_isDue h
    omega

def countFor (tracker : ScheduleTracker) (actor : String) (activation : Activation) : Nat :=
  match tracker.get? actor with
  | some count => if count.activation = activation then count.fired else 0
  | none => 0

/-- The repeats newly due for the active event. -/
def dueRepeats (tracker : ScheduleTracker) (s : Schedule) (status : ScheduleStatus) :
    Nat × ScheduleTracker :=
  match s.events[status.eventIndex]? with
  | none => (0, tracker)
  | some event =>
    let activation : Activation := ⟨status.activationMinute, event.dynamic⟩
    let before := tracker.countFor s.actor activation
    let now := catchUp event.row status.minutesSinceStart before
    (now - before, tracker.insert s.actor ⟨activation, now⟩)

end ScheduleTracker

end StoryEngine
