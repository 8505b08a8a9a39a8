import StoryEngine.Json.Decode
import StoryEngine.Schedule.Book
import StoryEngine.Yaml.Decode

/-! # Schedule files

A schedule file is a YAML mapping from actors to their rows, and the rows of an actor are a mapping
from time tokens. Rows may also be given in JSON.
-/

namespace StoryEngine

set_option autoImplicit false

open Text.Numeral (count32 count64)

namespace ScheduleRow

def fieldNames : List String :=
  ["action", "target", "patrol", "loops", "direction", "repeat_interval", "repeat_count"]

def ofYaml? (v : Yaml) : Option ScheduleRow := do
  let text := Yaml.withDefault (Yaml.optional? Yaml.text?) none
  let count := fun bound => Yaml.withDefault (Yaml.optional? (Yaml.natBelow? bound)) none
  match (← v.record? fieldNames).1 with
  | [action, target, patrol, loops, direction, interval, times] =>
    let action ← Yaml.required Yaml.text? action
    return ⟨action, ← text target, ← text patrol, ← count count32 loops, ← text direction,
      ← count count64 interval, ← count count32 times⟩
  | _ => none

def ofJson? (v : Json) : Option ScheduleRow := do
  let text := Json.withDefault (Json.optional? Json.text?) none
  let count := fun bound => Json.withDefault (Json.optional? (Json.natBelow? bound)) none
  match ← v.record? fieldNames with
  | [action, target, patrol, loops, direction, interval, times] =>
    let action ← Json.required Json.text? action
    return ⟨action, ← text target, ← text patrol, ← count count32 loops, ← text direction,
      ← count count64 interval, ← count count32 times⟩
  | _ => none

/-- Writes the fields that are given. -/
def toJson (row : ScheduleRow) : Json :=
  let text := fun name (v : Option String) => v.toList.map fun s => (name, Json.string s)
  let count := fun name (v : Option Nat) => v.toList.map fun n => (name, Json.number (Int.ofNat n))
  .object ([("action", .string row.action)] ++ text "target" row.target ++
    text "patrol" row.patrol ++ count "loops" row.loops ++ text "direction" row.direction ++
    count "repeat_interval" row.repeatInterval ++ count "repeat_count" row.repeatCount)

end ScheduleRow

namespace ScheduleBook

/-- What a message about an unreadable text says in place of the reader's own words. -/
def notReadable : String := "not a table of schedules"

def parse (content origin : String) : Except ScheduleError ScheduleBook :=
  match (Yaml.parse? content).bind fun v => v.map? (Yaml.map? ScheduleRow.ofYaml?) with
  | some file => ofFile origin file
  | none => .error (.unreadable origin notReadable)

end ScheduleBook

end StoryEngine
