import StoryEngine.Quest.Log
import StoryEngine.World.Position

/-! # Failures while content runs

Values that do not read are no failures; they are sorted out when a line is read.
-/

namespace StoryEngine

set_option autoImplicit false

inductive ScriptError where
  | missingActor (actor script map : String)
  | noMaster (script : String)
  | missingScript (script : String)
  | quest (cause : QuestError) (script map : String)
  | outOfBounds (actor : String) (position : Position) (script map : String)
  | invalidArgument (verb value script : String)
deriving DecidableEq

def ScriptError.message : ScriptError → String
  | missingActor actor script map => s!"script '{script}' on map '{map}': no actor named '{actor}'"
  | noMaster script => s!"script '{script}': action needs a master actor but the run has none"
  | missingScript script => s!"no script with id '{script}'"
  | quest cause script map => s!"script '{script}' on map '{map}': {cause.message}"
  | outOfBounds actor position script map =>
    s!"script '{script}' on map '{map}': '{actor}' would leave the map at {position.render}"
  | invalidArgument verb value script => s!"script '{script}': invalid value '{value}' for '{verb}'"

end StoryEngine
