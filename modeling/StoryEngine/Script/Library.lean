import StoryEngine.Json.Decode
import StoryEngine.Script.Line

/-! # Script libraries

A script file is an object whose members are scripts. Each script has optional conditions, an
optional destroy policy and its lines, all as texts that are read when the file is.
-/

namespace StoryEngine

set_option autoImplicit false

def DestroyPolicy.name : DestroyPolicy → String
  | onTrigger => "on_trigger"
  | afterTrigger => "after_trigger"

def DestroyPolicy.ofName? (name : String) : Option DestroyPolicy :=
  [onTrigger, afterTrigger].find? (·.name == name)

def Script.ofSource (conditions : List String) (destroy : Option DestroyPolicy)
    (lines : List String) : Script :=
  ⟨conditions.flatMap Condition.parseList, destroy, lines.map ScriptLine.parse⟩

def Script.ofJson? (body : Json) : Option Script := do
  match ← body.record? ["conditions", "destroy", "lines"] with
  | [conditions, destroy, lines] =>
    let conditions ← Json.withDefault (Json.list? Json.text?) [] conditions
    let destroy ← Json.withDefault (Json.optional? (Json.choice? DestroyPolicy.ofName?)) none destroy
    let lines ← Json.withDefault (Json.list? Json.text?) [] lines
    return .ofSource conditions destroy lines
  | _ => none

/-- Scripts by id. -/
abbrev ScriptLibrary := StringMap Script

namespace ScriptLibrary

def ofJson? (file : Json) : Option ScriptLibrary := file.map? Script.ofJson?

def parse? (content : String) : Option ScriptLibrary := (Json.parse? content).bind ofJson?

def degradedActions (library : ScriptLibrary) : Nat :=
  (library.values.flatMap Script.actions).countP Action.isDegraded

end ScriptLibrary

end StoryEngine
