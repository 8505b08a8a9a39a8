import StoryEngine.Storage.Files
import StoryEngine.Text.Blank
import StoryEngine.Text.Numeral
import StoryEngine.Yaml.Decode

/-! # Settings

The arguments name the content root and a save slot. The numbers come from the environment, else
from the engine file of the root, else they have their usual values. A variable that is blank is
taken as not set.
-/

namespace StoryEngine

set_option autoImplicit false

open Text.Numeral (count32 count64)

structure Settings where
  root : String
  slot : String
  /-- The minutes of game time that a step takes. -/
  stepMinutes : Nat
  partyFluency : Nat
  dialogCapacity : Nat
deriving DecidableEq

inductive SettingsError where
  | usage
  | unreadable (path : String) (fault : FileFault)
  | malformed (path : String)
  | noStepMinutes
  | notANumber (name value : String)
deriving DecidableEq

def SettingsError.message : SettingsError → String
  | usage => "usage: questline <content-root> [save-slot]"
  | unreadable path fault => s!"failed to read {path}: {fault.message}"
  | malformed path => s!"invalid {path}: not an engine file"
  | noStepMinutes => "step_minutes must be at least 1"
  | notANumber name value => s!"{name} is not a valid number: {value}"

structure EngineFile where
  stepMinutes : Option Nat
  partyFluency : Option Nat
  dialogCache : Option Nat
deriving DecidableEq

namespace EngineFile

def blank : EngineFile := ⟨none, none, none⟩

def ofYaml? (v : Yaml) : Option EngineFile := do
  let count := fun bound => Yaml.withDefault (Yaml.optional? (Yaml.natBelow? bound)) none
  match ← v.record? ["step_minutes", "party_fluency", "dialog_cache"] with
  | ([stepMinutes, partyFluency, dialogCache], []) =>
    return ⟨← count count64 stepMinutes, ← count count32 partyFluency, ← count count64 dialogCache⟩
  | _ => none

def parse? (content : String) : Option EngineFile :=
  if Text.trim content = "" then some blank else (Yaml.parse? content).bind ofYaml?

def load (files : Files) (path : String) : Except SettingsError EngineFile :=
  if files.isPresent path then
    match files.readText path with
    | .error fault => .error (.unreadable path fault)
    | .ok content =>
      match parse? content with
      | some file => .ok file
      | none => .error (.malformed path)
  else .ok blank

end EngineFile

namespace Settings

/-- The number in a variable, if it is set. -/
def readNumber (environment : String → Option String) (bound : Nat) (name : String) :
    Except SettingsError (Option Nat) :=
  match (environment name).map Text.trim with
  | none | some "" => .ok none
  | some value =>
    match Text.Numeral.natBelow? bound value with
    | some n => .ok (some n)
    | none => .error (.notANumber name value)

def stepMinutesName : String := "QUESTLINE_STEP_MINUTES"
def fluencyName : String := "QUESTLINE_FLUENCY"
def dialogCapacityName : String := "QUESTLINE_DIALOG_CACHE"

def variableNames : List String := [stepMinutesName, fluencyName, dialogCapacityName]

def usualSlot : String := "quicksave"
def usualStepMinutes : Nat := 5
def usualFluency : Nat := 0
def usualDialogCapacity : Nat := 32

/-- Reads the settings for a root. A step of no minutes is refused before the other variables are
looked at. -/
def ofRoot (files : Files) (environment : String → Option String) (root slot : String) :
    Except SettingsError Settings := do
  let file ← EngineFile.load files (Path.join root "engine.yaml")
  let stepMinutes ← readNumber environment count64 stepMinutesName
  let stepMinutes := (stepMinutes.or file.stepMinutes).getD usualStepMinutes
  if stepMinutes = 0 then throw .noStepMinutes
  let partyFluency ← readNumber environment count32 fluencyName
  let dialogCapacity ← readNumber environment count64 dialogCapacityName
  return {
    root, slot, stepMinutes
    partyFluency := (partyFluency.or file.partyFluency).getD usualFluency
    dialogCapacity := (dialogCapacity.or file.dialogCache).getD usualDialogCapacity }

/-- Reads the settings from the words of a command line, the name of the program among them. -/
def ofWords (files : Files) (environment : String → Option String) (words : List String) :
    Except SettingsError Settings :=
  match words with
  | _ :: root :: slot :: _ => ofRoot files environment root slot
  | [_, root] => ofRoot files environment root usualSlot
  | _ => .error .usage

end Settings

end StoryEngine
