import StoryEngine.Content.Error
import StoryEngine.Content.Listing
import StoryEngine.Dialog.Language
import StoryEngine.Quest.Format
import StoryEngine.Schedule.Format
import StoryEngine.Script.Library

/-! # Loading content

Loading stops at the first fault. Script ids and scheduled actors belong to one file each. The
quest and language tables may be missing and are empty then.
-/

namespace StoryEngine

set_option autoImplicit false

namespace ScriptLibrary

/-- Adds the scripts of a file, none of which may be there already. -/
def addFile (library : ScriptLibrary) (path : String) (file : ScriptLibrary) :
    Except ContentError ScriptLibrary :=
  match file.keys.find? library.contains with
  | some id => .error (.duplicateScript id path)
  | none => .ok (file.toList.foldl (fun library e => library.insert e.1 e.2) library)

def loadFile (files : Files) (library : ScriptLibrary) (path : String) :
    Except ContentError ScriptLibrary :=
  match files.readAs path parse? with
  | .error (.unreadable fault) => .error (.unreadable path fault)
  | .error .malformed => .error (.scriptFile path .malformed)
  | .ok file => library.addFile path file

def load (files : Files) (directory : String) : Except ContentError ScriptLibrary := do
  let paths ← (files.pathsWith Files.scriptExtensions directory).mapError (.directory directory)
  paths.foldlM (loadFile files) ∅

end ScriptLibrary

namespace ScheduleBook

def loadFile (files : Files) (book : ScheduleBook) (path : String) :
    Except ScheduleError ScheduleBook := do
  let content ← (files.readText path).mapError fun fault => .unreadable path fault.message
  let file ← parse content path
  book.addAll path file.values

def load (files : Files) (directory : String) : Except ScheduleError ScheduleBook := do
  let paths ← (files.pathsWith Files.scheduleExtensions directory).mapError
    fun fault => .unreadable directory fault.message
  paths.foldlM (loadFile files) ∅

end ScheduleBook

/-- The table of a file, or the empty one if there is no such file. -/
def loadTable {α : Type} (files : Files) (path : String) (parse? : String → Option (StringMap α))
    (malformed : ContentError) : Except ContentError (StringMap α) :=
  if files.isPresent path then
    match files.readAs path parse? with
    | .error (.unreadable fault) => .error (.unreadable path fault)
    | .error .malformed => .error malformed
    | .ok table => .ok table
  else .ok ∅

def QuestCatalog.load (files : Files) (path : String) : Except ContentError QuestCatalog :=
  loadTable files path QuestCatalog.parse? .questTable

def LanguageTable.load (files : Files) (path : String) : Except ContentError LanguageTable :=
  loadTable files path LanguageTable.parse? .languageTable

end StoryEngine
