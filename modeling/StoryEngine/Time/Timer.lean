import StoryEngine.Collection.StringMap
import StoryEngine.Number.Binary
import StoryEngine.Text.Split
import StoryEngine.Time.Tick

/-! # Named timers

Nothing sweeps the timers: a timer is read when someone asks, and a finished one may be dropped by
that reading. A name that is not registered reads as finished.
-/

namespace StoryEngine

set_option autoImplicit false

structure Timer where
  start : Tick
  millis : Nat
deriving DecidableEq

namespace Timer

/-- Seconds in double precision: the whole seconds and the rest are rounded each on its own and
then added. -/
def seconds (millis : Nat) : Binary :=
  .add .double (.ofNat .double (millis / 1000))
    (.ofRatio .double (millis % 1000 * 1000000) 1000000000)

/-- The part of the timer that has passed, in single precision. A timer without length is over. -/
def progress (t : Timer) (now : Tick) : Binary :=
  if t.millis = 0 then .one
  else
    let passed := seconds (Tick.since now t.start)
    Binary.round .single (Binary.min (.div .double passed (seconds t.millis)) .one)

def remaining (t : Timer) (now : Tick) : Nat := t.millis - Tick.since now t.start

end Timer

abbrev Timers := StringMap Timer

namespace Timers

/-- Marks the names of timers that hold a run. -/
def waitMark : String := "_wait"

def start (timers : Timers) (name : String) (millis : Nat) (now : Tick) : Timers :=
  timers.insert name ⟨now, millis⟩

def restart (timers : Timers) (name : String) (now : Tick) : Timers :=
  match timers.get? name with
  | some t => timers.insert name { t with start := now }
  | none => timers

def isActive (timers : Timers) (name : String) : Bool := timers.contains name

def progress (timers : Timers) (name : String) (now : Tick) : Binary :=
  match timers.get? name with
  | some t => t.progress now
  | none => .one

def isFinished (timers : Timers) (name : String) (now : Tick) : Bool :=
  Binary.one.le (timers.progress name now)

def remaining (timers : Timers) (name : String) (now : Tick) : Nat :=
  match timers.get? name with
  | some t => t.remaining now
  | none => 0

/-- Reads the progress and drops the timer if it is finished. -/
def takeProgress (timers : Timers) (name : String) (now : Tick) : Binary × Timers :=
  (timers.progress name now,
    if timers.isFinished name now then timers.erase name else timers)

def takeRemaining (timers : Timers) (name : String) (now : Tick) : Nat × Timers :=
  (timers.remaining name now,
    if timers.remaining name now = 0 then timers.erase name else timers)

def holdsRun (name : String) : Bool := Text.occursIn waitMark name

/-- Removes a timer; one that holds a run only by force. -/
def cancel (timers : Timers) (name : String) (force : Bool) : Bool × Timers :=
  if holdsRun name && !force then (false, timers)
  else (timers.contains name, timers.erase name)

/-- Whether a name is the wait timer of a scope or one of its branches. -/
def inWaitScope (scope name : String) : Bool :=
  match Text.afterStart? (scope ++ waitMark).toList name.toList with
  | some [] => true
  | some (c :: _) => c == '_'
  | none => false

def cancelWaitScope (timers : Timers) (scope : String) : Timers :=
  timers.filter fun name _ => !inWaitScope scope name

end Timers

end StoryEngine
