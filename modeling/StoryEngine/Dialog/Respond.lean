import StoryEngine.Dialog.Language
import StoryEngine.Dialog.Table
import StoryEngine.Script.Dispatch

/-! # Answering a keyword

The first entry of the keyword whose conditions hold answers. When one of its events fails, the
world goes back to what it was before the keyword. Nothing in a dialog waits: pauses are passed over,
and walkers and jumps are not followed.
-/

namespace StoryEngine

set_option autoImplicit false

structure DialogResponse where
  keyword : String
  matched : Bool
  lines : List String
  startScripts : List String
  endScripts : List String
  transitions : List Transition
  closes : Bool
deriving DecidableEq

/-- What every person says in common: the languages, and the answer to unknown keywords. -/
structure Parlance where
  languages : LanguageTable
  noMatch : String
deriving DecidableEq

namespace Dialog

def defaultNoMatch : String := "I don't know anything about that."

def greeting : String := "hi"

def scope (table : DialogTable) (npc : Option Handle) : Scope :=
  ⟨"dialog:" ++ table.npc, npc, "dialog:" ++ table.npc⟩

def isWait : Action → Bool
  | .wait _ => true
  | _ => false

/-- Notes in the response what a directive asks for. -/
def note (response : DialogResponse) : Directive → DialogResponse
  | .show line | .awaitInput line _ => { response with lines := response.lines ++ [line.text] }
  | .startScript script => { response with startScripts := response.startScripts ++ [script] }
  | .endScript script => { response with endScripts := response.endScripts ++ [script] }
  | .transition target => { response with transitions := response.transitions ++ [target] }
  | .forceEnd => { response with closes := true }
  | .proceed | .pause _ | .walkers _ | .jump _ _ => response

/-- Lets events happen in order up to the first that fails: the stage as it is then, and the response
with the notes of all of them or the error. -/
def happen (place : Place) (scope : Scope) (stage : Stage) (response : DialogResponse) :
    List Action → Stage × Except ScriptError DialogResponse
  | [] => (stage, .ok response)
  | action :: rest =>
    if isWait action then happen place scope stage response rest
    else
      match Dispatch.perform place scope stage action with
      | (stage, .error e) => (stage, .error e)
      | (stage, .ok directive) => happen place scope stage (note response directive) rest

def render (parlance : Parlance) (table : DialogTable) (entry : DialogEntry) (fluency : Nat) :
    List String :=
  match table.language.bind parlance.languages.get? with
  | none => entry.lines
  | some language =>
    if language.threshold ≤ fluency then entry.english.getD entry.lines
    else entry.lines.map language.translate

def choose? (table : DialogTable) (keyword : String) (w : World) (npc : Option Handle) :
    Option DialogEntry :=
  ((table.keywords.get? keyword).getD []).find? fun entry =>
    Condition.allHold entry.conditions w npc

def unmatched (parlance : Parlance) (table : DialogTable) (keyword : String) : DialogResponse :=
  ⟨keyword, false, [table.noMatch.getD parlance.noMatch], [], [], [], false⟩

/-- The world after an exchange whose events have happened. -/
def concluded (table : DialogTable) (entry : DialogEntry) (keyword : String) (w : World) : World :=
  let w := entry.setFlags.foldl World.setFlag w
  { w with lastKeyword := some keyword, talkedTo := w.talkedTo.add table.npc }

def respond (parlance : Parlance) (table : DialogTable) (typed : String) (place : Place)
    (npc : Option Handle) (stage : Stage) : Stage × Except ScriptError DialogResponse :=
  let keyword := table.resolve typed stage.world.lastKeyword
  match choose? table keyword stage.world npc with
  | none => (stage, .ok (unmatched parlance table keyword))
  | some entry =>
    match happen place (scope table npc) stage ⟨keyword, true, [], [], [], [], false⟩
        entry.events with
    | (after, .error e) => ({ after with world := stage.world }, .error e)
    | (after, .ok response) =>
      let world := concluded table entry keyword after.world
      let lines := render parlance table entry world.fluency ++ response.lines
      ({ after with world }, .ok { response with lines })

def greet (parlance : Parlance) (table : DialogTable) (place : Place) (npc : Option Handle)
    (stage : Stage) : Stage × Except ScriptError DialogResponse :=
  respond parlance table greeting place npc stage

end Dialog

end StoryEngine
