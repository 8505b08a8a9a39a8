import StoryEngine.Json.Decode
import StoryEngine.Quest.Log

/-! # Quest tables and quest records in JSON

Marks are written only when they are set, steps and hints only when there are any. The marks of
a quest stand beside its steps and hints, so such a record is always an object; members with other
names in it have to be sound.
-/

namespace StoryEngine

set_option autoImplicit false

open Json (record? withDefault list? text? bool? map? set? member?)

def QuestDef.ofJson? (v : Json) : Option QuestDef := do
  match ← v.record? ["steps", "hints"] with
  | [steps, hints] =>
    let steps ← withDefault (list? text?) [] steps
    let hints ← withDefault (list? text?) [] hints
    return ⟨steps, hints⟩
  | _ => none

def QuestCatalog.ofJson? (v : Json) : Option QuestCatalog := v.map? QuestDef.ofJson?

def QuestCatalog.parse? (content : String) : Option QuestCatalog :=
  (Json.parse? content).bind QuestCatalog.ofJson?

namespace Progress

def fieldNames : List String := ["started", "completed", "failed"]

def ofFields? : List (Option Json) → Option Progress
  | [started, completed, failed] => do
    let started ← withDefault bool? false started
    let completed ← withDefault bool? false completed
    let failed ← withDefault bool? false failed
    return ⟨started, completed, failed⟩
  | _ => none

def ofJson? (v : Json) : Option Progress := (v.record? fieldNames).bind ofFields?

def members (p : Progress) : List (String × Json) :=
  (if p.started then [("started", .bool true)] else []) ++
    (if p.completed then [("completed", .bool true)] else []) ++
    (if p.failed then [("failed", .bool true)] else [])

def toJson (p : Progress) : Json := .object p.members

end Progress

namespace QuestState

def partNames : List String := ["steps", "hints"]

/-- Reads a record that lies at the given depth of containers. -/
def ofJson? (roomBelow : Nat) : Json → Option QuestState
  | .object members => do
    let steps ← member? members "steps"
    let hints ← member? members "hints"
    let marks ← Progress.fieldNames.mapM (member? members)
    let progress ← Progress.ofFields? marks
    let steps ← withDefault (map? Progress.ofJson?) ∅ steps
    let hints ← withDefault set? ∅ hints
    let others := members.filter fun m => !partNames.contains m.1
    if Json.allMembersSound roomBelow others then return ⟨progress, steps, hints⟩ else none
  | _ => none

def toJson (s : QuestState) : Json :=
  .object (s.progress.members ++
    (if s.steps.isEmpty then []
      else [("steps", .object (s.steps.toList.map fun e => (e.1, e.2.toJson)))]) ++
    (if s.hints.isEmpty then [] else [("hints", .array (s.hints.keys.map Json.string))]))

end QuestState

end StoryEngine
