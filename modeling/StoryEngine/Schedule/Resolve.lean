import StoryEngine.Collection.StringMap
import StoryEngine.Schedule.Event
import StoryEngine.Time.TurnLog

/-! # Schedules

The events of an actor in the order of their minutes. They repeat in cycles of whole days, and
before the first event of a cycle the last one is still active.
-/

namespace StoryEngine

set_option autoImplicit false

structure Schedule where
  actor : String
  events : List ScheduleEvent
deriving DecidableEq

structure ScheduleStatus where
  eventIndex : Nat
  eventMinute : Nat
  currentMinute : Nat
  minutesSinceStart : Nat
  /-- The clock when the active event began. -/
  activationMinute : Nat
  turnsSinceStart : Nat
  stepsDue : Nat
deriving DecidableEq

namespace Schedule

def blank (actor : String) : Schedule := ⟨actor, []⟩

/-- Puts an event behind all that begin no later. -/
def insertEvent (event : ScheduleEvent) : List ScheduleEvent → List ScheduleEvent
  | [] => [event]
  | other :: rest =>
    if other.minute ≤ event.minute then other :: insertEvent event rest
    else event :: other :: rest

def push (s : Schedule) (event : ScheduleEvent) : Schedule :=
  { s with events := insertEvent event s.events }

def addRow (s : Schedule) (token : String) (row : ScheduleRow) : Except ScheduleError Schedule := do
  let minute ← (TimeToken.parse token).mapError (.invalidTime token)
  let event ← (ScheduleEvent.ofRow minute false row).mapError (.invalidEvent s.actor token)
  return s.push event

/-- A schedule of at least one row. -/
def ofRows (actor : String) (rows : StringMap ScheduleRow) : Except ScheduleError Schedule := do
  let s ← rows.toList.foldlM (fun s e => addRow s e.1 e.2) (blank actor)
  if s.events = [] then throw (.empty actor) else return s

def insertDynamic (s : Schedule) (minute : Nat) (row : ScheduleRow) :
    Except ScheduleError Schedule := do
  let event ← (ScheduleEvent.ofRow minute true row).mapError (.invalidEvent s.actor s!"+{minute}")
  return s.push event

def clearDynamic (s : Schedule) : Schedule :=
  { s with events := s.events.filter fun e => !e.dynamic }

/-- How many events are taken out, and the schedule without them. -/
def clear (s : Schedule) : Nat × Schedule :=
  (s.events.length - s.clearDynamic.events.length, s.clearDynamic)

/-- Whole days that cover the latest event. -/
def cycleLength (s : Schedule) : Nat :=
  ((s.events.getLast?.map (·.minute)).getD 0 / minutesPerDay + 1) * minutesPerDay

/-- The index of the active event and the minutes since it began, at a minute of the cycle. -/
def activeAt? (s : Schedule) (minute : Nat) : Option (Nat × ScheduleEvent × Nat) :=
  let begun := s.events.countP fun e => e.minute ≤ minute
  if begun = 0 then
    s.events.getLast?.map fun e => (s.events.length - 1, e, minute + s.cycleLength - e.minute)
  else s.events[begun - 1]?.map fun e => (begun - 1, e, minute - e.minute)

/-- Where the actor is in its schedule, if it has events. A step length of zero owes no steps. -/
def resolve (s : Schedule) (turns : TurnLog) (stepMinutes : Nat) : Option ScheduleStatus :=
  let minute := turns.current % s.cycleLength
  (s.activeAt? minute).map fun (index, event, since) =>
    { eventIndex := index
      eventMinute := event.minute
      currentMinute := minute
      minutesSinceStart := since
      activationMinute := turns.current - since
      turnsSinceStart := turns.trailingWithin since
      stepsDue := since / stepMinutes }

end Schedule

end StoryEngine
