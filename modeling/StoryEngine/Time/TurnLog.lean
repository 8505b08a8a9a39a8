import StoryEngine.Time.GameTime

/-! # The turn log

Turns last different numbers of minutes. The log keeps the length of each turn and the clock before
and after the last one.
-/

namespace StoryEngine

set_option autoImplicit false

structure TurnLog where
  durations : List Nat
  previous : Nat
  current : Nat
deriving DecidableEq

namespace TurnLog

def startingAt (minute : Nat) : TurnLog := ⟨[], minute, minute⟩

def blank : TurnLog := startingAt 0

/-- The clock of the game is a 64-bit number and stays at the last one. -/
def record (log : TurnLog) (minutes : Nat) : TurnLog :=
  ⟨log.durations ++ [minutes], log.current, min (log.current + minutes) 0xFFFFFFFFFFFFFFFF⟩

def turnCount (log : TurnLog) : Nat := log.durations.length

def timeOfDay (log : TurnLog) : GameTime := .ofMinutes log.current

/-- How many elements, from the first, fit together into `room`. -/
def countFitting : List Nat → Nat → Nat
  | [], _ => 0
  | d :: rest, room => if d ≤ room then countFitting rest (room - d) + 1 else 0

/-- The number of latest turns whose lengths together fit into the given minutes. -/
def trailingWithin (log : TurnLog) (minutes : Nat) : Nat :=
  countFitting log.durations.reverse minutes

end TurnLog

end StoryEngine
