import StoryEngine.Command.Console

/-! # A survey of a content root

The survey counts the entries of each content directory, whatever they are.
-/

namespace StoryEngine

set_option autoImplicit false

structure Survey where
  scripts : Nat
  dialog : Nat
  schedules : Nat
  saves : Nat
  hasQuests : Bool
  hasLanguages : Bool
deriving DecidableEq

namespace Survey

/-- A directory that is missing has no entries. -/
def countEntries (files : Files) (directory : String) : Except CommandError Nat :=
  match files.list directory with
  | .ok children => .ok children.size
  | .error .notFound => .ok 0
  | .error fault => .error (.content (.unreadable directory fault))

def make (files : Files) (root : String) : Except CommandError Survey := do
  if !files.isDirectory root then throw (.rootNotDirectory root)
  return {
    scripts := ← countEntries files (Path.join root "scripts")
    dialog := ← countEntries files (Path.join root "dialog")
    schedules := ← countEntries files (Path.join root "schedules")
    saves := ← countEntries files (Path.join root "save")
    hasQuests := files.isFile (Path.join root "quests.json")
    hasLanguages := files.isFile (Path.join root "languages.json") }

end Survey

end StoryEngine
