import StoryEngine.Command.Reports
import StoryEngine.Command.Survey

/-! # The command that checks content

It prints the reports on a content root and ends with the number of errors. The quest table is
checked before the language table, and a fault in it leaves the other one unchecked.
-/

namespace StoryEngine.Check

set_option autoImplicit false

open Printing (say complain orStop)

/-- The errors in the tables of a root, which are complained of. -/
def tables (files : Files) (root : String) : Printing Nat := do
  match QuestCatalog.load files (Path.join root "quests.json") with
  | .error error =>
    complain s!"questline: quests validate {error.message}"
    return 1
  | .ok _ =>
    match LanguageTable.load files (Path.join root "languages.json") with
    | .error error =>
      complain s!"questline: languages validate {error.message}"
      return 1
    | .ok _ => return 0

def errors (files : Files) (environment : String → Option String) (words : List String) :
    Printing Nat := do
  let settings ← orStop .settings (Settings.ofWords files environment words)
  let _ ← orStop id (Survey.make files settings.root)
  let reports := ContentReports.collect files settings.root
  say "questline: content check"
  say s!"- root: {settings.root}"
  reports.print
  return reports.errorCount + (← tables files settings.root)

def finish (count : Nat) (t : Transcript) : Nat × Transcript :=
  if count = 0 then (0, { t with output := t.output ++ ["questline: content ok"] })
  else (1, { t with complaints := t.complaints ++ [s!"questline: {count} content errors"] })

def run (files : Files) (environment : String → Option String) (words : List String) : Ending :=
  .ofPrinting files 2 (errors files environment words) finish

end StoryEngine.Check
