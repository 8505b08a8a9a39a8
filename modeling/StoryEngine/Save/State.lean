import StoryEngine.Json.Printer
import StoryEngine.Quest.Format
import StoryEngine.Text.Numeral
import StoryEngine.World.State

/-! # What a save holds

A save keeps the flags, the names talked to, the quest records and the turn log. Running scripts and
timers are not saved, nor is anything else of the world.
-/

namespace StoryEngine

set_option autoImplicit false

structure SaveState where
  version : Nat
  flags : StringSet
  talkedTo : StringSet
  quests : StringMap QuestState
  turns : TurnLog
deriving DecidableEq

namespace SaveState

open Json (required withDefault list? map? set? natBelow?)
open Text.Numeral (count32 count64)

def currentVersion : Nat := 1

def capture (w : World) : SaveState :=
  ⟨currentVersion, w.flags, w.talkedTo, w.quests.sparseStates, w.turns⟩

/-- Puts the saved parts into a world. The ids of quests that its catalog does not list are
returned; their records are dropped. -/
def apply (s : SaveState) (w : World) : List String × World :=
  let (dropped, quests) := w.quests.restore s.quests
  (dropped, { w with flags := s.flags, talkedTo := s.talkedTo, quests, turns := s.turns })

def fieldNames : List String :=
  ["version", "flags", "talked_to", "quests", "turn_durations", "previous_clock", "current_clock"]

def setJson (s : StringSet) : Json := .array (s.keys.map Json.string)

def toJson (s : SaveState) : Json :=
  .object [("version", .number s.version), ("flags", setJson s.flags),
    ("talked_to", setJson s.talkedTo),
    ("quests", .object (s.quests.toList.map fun e => (e.1, e.2.toJson))),
    ("turn_durations", .array (s.turns.durations.map fun (d : Nat) => Json.number d)),
    ("previous_clock", .number s.turns.previous), ("current_clock", .number s.turns.current)]

/-- Containers that a text may still open inside a quest record: a text nests at most 127 deep, and
a record lies three deep. -/
def roomInQuest : Nat := 124

def ofJson? (v : Json) : Option SaveState := do
  match ← v.record? fieldNames with
  | [version, flags, talkedTo, quests, durations, previous, current] =>
    let version ← required (natBelow? count32) version
    let flags ← withDefault set? ∅ flags
    let talkedTo ← withDefault set? ∅ talkedTo
    let quests ← withDefault (map? (QuestState.ofJson? roomInQuest)) ∅ quests
    let durations ← withDefault (list? (natBelow? count32)) [] durations
    let previous ← withDefault (natBelow? count64) 0 previous
    let current ← withDefault (natBelow? count64) 0 current
    return ⟨version, flags, talkedTo, quests, ⟨durations, previous, current⟩⟩
  | _ => none

def render (s : SaveState) : String := s.toJson.indented

def parse? (content : String) : Option SaveState := (Json.parse? content).bind ofJson?

end SaveState

end StoryEngine
