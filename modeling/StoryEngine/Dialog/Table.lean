import StoryEngine.Json.Decode
import StoryEngine.Script.ActionReader
import StoryEngine.Script.Condition

/-! # Dialog tables

What a person says to a keyword. Keywords and aliases are compared trimmed and in small letters;
where two of them become the same, the one later in the order of the texts takes the place.
-/

namespace StoryEngine

set_option autoImplicit false

structure DialogEntry where
  lines : List String
  english : Option (List String)
  conditions : List Condition
  events : List Action
  setFlags : List String
deriving DecidableEq

structure DialogTable where
  npc : String
  aliases : StringMap String
  contextualAliases : StringMap (StringMap String)
  language : Option String
  noMatch : Option String
  keywords : StringMap (List DialogEntry)
deriving DecidableEq

namespace DialogEntry

open Json (withDefault list? text? optional?)

def ofJson? (v : Json) : Option DialogEntry := do
  match ← v.record? ["script", "english", "conditions", "events", "set_flags"] with
  | [script, english, conditions, events, setFlags] =>
    let lines ← withDefault (list? text?) [] script
    let english ← withDefault (optional? (list? text?)) none english
    let conditions ← withDefault (list? text?) [] conditions
    let events ← withDefault (list? text?) [] events
    let setFlags ← withDefault (list? text?) [] setFlags
    return ⟨lines, english, conditions.flatMap Condition.parseList, events.flatMap Action.parseList,
      setFlags⟩
  | _ => none

end DialogEntry

namespace DialogTable

open Json (withDefault list? text? optional? map?)

def normalize (keyword : String) : String := Text.asciiLower (Text.trim keyword)

def normalizeKeys {α : Type} (m : StringMap α) : StringMap α :=
  .ofList (m.toList.map fun e => (normalize e.1, e.2))

def normalizeAliases (m : StringMap String) : StringMap String :=
  normalizeKeys (m.map fun _ target => normalize target)

def ofJson? (npc : String) (v : Json) : Option DialogTable := do
  match ← v.record? ["aliases", "contextual_aliases", "language", "no_match", "keywords"] with
  | [aliases, contextual, language, noMatch, keywords] =>
    let aliases ← withDefault (map? text?) ∅ aliases
    let contextual ← withDefault (map? (map? text?)) ∅ contextual
    let language ← withDefault (optional? text?) none language
    let noMatch ← withDefault (optional? text?) none noMatch
    let keywords ← withDefault (map? (list? DialogEntry.ofJson?)) ∅ keywords
    return ⟨npc, normalizeAliases aliases, normalizeKeys (contextual.map fun _ => normalizeAliases),
      language, noMatch, normalizeKeys keywords⟩
  | _ => none

def parse? (npc content : String) : Option DialogTable :=
  (Json.parse? content).bind (ofJson? npc)

/-- Follows an alias, and then an alias that holds only after the last keyword. -/
def resolve (table : DialogTable) (typed : String) (last : Option String) : String :=
  let keyword := normalize typed
  let keyword := (table.aliases.get? keyword).getD keyword
  let inContext := last.bind fun last => table.contextualAliases.get? (normalize last)
  (inContext.bind fun aliases => aliases.get? keyword).getD keyword

def entries (table : DialogTable) : List DialogEntry := table.keywords.values.flatten

def degradedEvents (table : DialogTable) : Nat :=
  (table.entries.flatMap fun e => e.events).countP Action.isDegraded

end DialogTable

end StoryEngine
