import StoryEngine.Json.Decode
import StoryEngine.Text.Numeral
import StoryEngine.Time.TurnLog

/-! # The turn log in JSON -/

namespace StoryEngine.TurnLog

set_option autoImplicit false

open Json (required list? natBelow?)
open Text.Numeral (count32 count64)

def toJson (log : TurnLog) : Json :=
  .object [("durations", .array (log.durations.map fun (d : Nat) => Json.number d)),
    ("previous_clock", .number log.previous), ("current_clock", .number log.current)]

def ofJson? (v : Json) : Option TurnLog := do
  match ← v.record? ["durations", "previous_clock", "current_clock"] with
  | [durations, previous, current] =>
    let durations ← required (list? (natBelow? count32)) durations
    let previous ← required (natBelow? count64) previous
    let current ← required (natBelow? count64) current
    return ⟨durations, previous, current⟩
  | _ => none

def parse? (content : String) : Option TurnLog := (Json.parse? content).bind ofJson?

end StoryEngine.TurnLog
