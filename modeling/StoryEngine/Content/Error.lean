import StoryEngine.Schedule.Event
import StoryEngine.Storage.Files

/-! # What is wrong with content files

A file is unreadable when the store does not give its text, and malformed when the text is not what
the file should hold.
-/

namespace StoryEngine

set_option autoImplicit false

inductive FileTrouble where
  | unreadable (fault : FileFault)
  | malformed
deriving DecidableEq

/-- Says what is wrong with a file that should hold what is named. -/
def FileTrouble.message (expected : String) : FileTrouble → String
  | unreadable fault => fault.message
  | malformed => s!"not {expected}"

inductive ContentError where
  | directory (path : String) (fault : FileFault)
  | unreadable (path : String) (fault : FileFault)
  | scriptFile (path : String) (trouble : FileTrouble)
  | duplicateScript (id path : String)
  | scriptTwice (id first second : String)
  | dialogFile (path : String) (trouble : FileTrouble)
  | unreadableSchedules (fault : FileFault)
  | schedule (cause : ScheduleError)
  | scheduleTwice (actor first second : String)
  | questTable
  | languageTable
deriving DecidableEq

def expectedScripts : String := "a table of scripts"
def expectedDialog : String := "a dialog table"

def ContentError.message : ContentError → String
  | directory path fault => s!"failed to read content dir {path}: {fault.message}"
  | unreadable path fault => s!"failed to read {path}: {fault.message}"
  | scriptFile path trouble => s!"script file {path}: {trouble.message expectedScripts}"
  | duplicateScript id path => s!"duplicate script id {id} in {path}"
  | scriptTwice id first second => s!"script {id} defined in {first} and {second}"
  | dialogFile path trouble => s!"dialog file {path}: {trouble.message expectedDialog}"
  | unreadableSchedules fault => fault.message
  | schedule cause => cause.message
  | scheduleTwice actor first second => s!"schedule for {actor} defined in {first} and {second}"
  | questTable => "invalid quest table: not a table of quests"
  | languageTable => "languages: not a table of languages"

/-- The value that a file holds. -/
def Files.readAs {α : Type} (files : Files) (path : String) (parse? : String → Option α) :
    Except FileTrouble α :=
  match files.readText path with
  | .error fault => .error (.unreadable fault)
  | .ok content =>
    match parse? content with
    | some value => .ok value
    | none => .error .malformed

end StoryEngine
