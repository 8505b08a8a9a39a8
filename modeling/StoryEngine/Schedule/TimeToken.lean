import StoryEngine.Text.Blank
import StoryEngine.Text.Numeral
import StoryEngine.Text.Split
import StoryEngine.Time.GameTime

/-! # Time tokens

`HH:MM`, or `DD:HH:MM` with the day of the cycle in front. Each part may have zeros and blanks
around it.
-/

namespace StoryEngine

set_option autoImplicit false

inductive TimeFault where
  | notNumbers
  | notATime
  | hourOutOfRange
  | minuteOutOfRange
deriving DecidableEq

def TimeFault.message : TimeFault → String
  | notNumbers => "expected numbers"
  | notATime => "expected HH:MM or DD:HH:MM"
  | hourOutOfRange => "hour out of range"
  | minuteOutOfRange => "minute out of range"

namespace TimeToken

open Text (trim splitAll)
open Text.Numeral (natBelow? count64)

def ofParts (day hour minute : Nat) : Except TimeFault Nat :=
  if 24 ≤ hour then .error .hourOutOfRange
  else if 60 ≤ minute then .error .minuteOutOfRange
  else .ok (day * minutesPerDay + hour * 60 + minute)

/-- The minute of the cycle that a token names. -/
def parse (token : String) : Except TimeFault Nat :=
  match (splitAll ":" (trim token)).mapM fun part => natBelow? count64 (trim part) with
  | none => .error .notNumbers
  | some [hour, minute] => ofParts 0 hour minute
  | some [day, hour, minute] => ofParts day hour minute
  | some _ => .error .notATime

end TimeToken

end StoryEngine
