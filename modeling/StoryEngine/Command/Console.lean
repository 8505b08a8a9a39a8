import StoryEngine.Command.Settings
import StoryEngine.Content.Error
import StoryEngine.Save.Store

/-! # What a command prints

A command prints lines of output and lines of complaint, and may stop with an error.
-/

namespace StoryEngine

set_option autoImplicit false

structure Transcript where
  output : List String
  complaints : List String
deriving DecidableEq

inductive CommandError where
  | settings (cause : SettingsError)
  | logDirectory (fault : FileFault)
  | logFile (name : String) (fault : FileFault)
  | rootNotDirectory (root : String)
  | content (cause : ContentError)
  | schedule (cause : ScheduleError)
  | save (cause : SaveError)
deriving DecidableEq

def CommandError.message : CommandError → String
  | settings cause => cause.message
  | logDirectory fault => s!"log directory create failed: {fault.message}"
  | logFile name fault => s!"open log {name} failed: {fault.message}"
  | rootNotDirectory root => s!"content root {root} is not a directory"
  | content cause => cause.message
  | schedule cause => cause.message
  | save cause => cause.message

abbrev Printing := ExceptT CommandError (StateM Transcript)

namespace Printing

def say (line : String) : Printing Unit :=
  modify fun t => { t with output := t.output ++ [line] }

def complain (line : String) : Printing Unit :=
  modify fun t => { t with complaints := t.complaints ++ [line] }

/-- A command stops where a result is an error. -/
def orStop {ε α : Type} (cause : ε → CommandError) (result : Except ε α) : Printing α :=
  ExceptT.mk (pure (result.mapError cause))

end Printing

/-- How a command ends: its exit code, what it printed and the files as it leaves them. -/
structure Ending where
  code : Nat
  transcript : Transcript
  files : Files

namespace Ending

def ofError (files : Files) (code : Nat) (t : Transcript) (error : CommandError) : Ending :=
  ⟨code, { t with complaints := t.complaints ++ [error.message] }, files⟩

/-- Runs a command that leaves the files as they are. Its value says how it went. -/
def ofPrinting {α : Type} (files : Files) (errorCode : Nat) (command : Printing α)
    (finish : α → Transcript → Nat × Transcript) : Ending :=
  match command.run.run ⟨[], []⟩ with
  | (.error error, t) => ofError files errorCode t error
  | (.ok value, t) => let (code, t) := finish value t; ⟨code, t, files⟩

end Ending

end StoryEngine
