import StoryEngine.Dialog.CacheStats
import StoryEngine.Dialog.Table
import StoryEngine.Storage.Files
import StoryEngine.Text.Ascii

/-! # Dialog libraries

The tables of a directory are loaded when they are first asked for, and a limited number of them is
kept. When there is no room for another one, the table that was asked for least recently goes.
A person is known by the name in small letters, and the table is the one read for the name as it
was spelled when the file was loaded.
-/

namespace StoryEngine

set_option autoImplicit false

inductive DialogError where
  | missing (npc : String)
  | unreadable (path : String) (fault : FileFault)
  | malformed (npc : String)
deriving DecidableEq

def DialogError.message : DialogError → String
  | missing npc => s!"no dialog table for '{npc}'"
  | unreadable path fault => s!"failed to read {path}: {fault.message}"
  | malformed npc => s!"dialog table {npc}: not a dialog table"

structure DialogLibrary where
  directory : String
  capacity : Nat
  /-- The tables that are kept, the one asked for most recently first. -/
  tables : List (String × DialogTable)
  stats : CacheStats

namespace DialogLibrary

/-- There is room for one table at least. -/
def ofDirectory (directory : String) (capacity : Nat) : DialogLibrary :=
  ⟨directory, max capacity 1, [], ⟨0, 0, 0⟩⟩

def key (npc : String) : String := Text.asciiLower npc

def cached (library : DialogLibrary) : Nat := library.tables.length

def without (library : DialogLibrary) (npc : String) : List (String × DialogTable) :=
  library.tables.filter fun e => e.1 != key npc

def read (files : Files) (directory npc : String) : Except DialogError DialogTable :=
  let path := Path.join directory (key npc ++ ".json")
  if files.isPresent path then
    match files.readText path with
    | .error fault => .error (.unreadable path fault)
    | .ok content =>
      match DialogTable.parse? npc content with
      | some table => .ok table
      | none => .error (.malformed npc)
  else .error (.missing npc)

/-- Keeps a table that was not kept before. -/
def keep (library : DialogLibrary) (npc : String) (table : DialogTable) : DialogLibrary :=
  if library.cached < library.capacity then
    { library with tables := (key npc, table) :: library.tables }
  else
    { library with
      tables := (key npc, table) :: library.tables.dropLast
      stats := { library.stats with evictions := library.stats.evictions + 1 } }

def countHit (library : DialogLibrary) : DialogLibrary :=
  { library with stats := { library.stats with hits := library.stats.hits + 1 } }

def countMiss (library : DialogLibrary) : DialogLibrary :=
  { library with stats := { library.stats with misses := library.stats.misses + 1 } }

/-- The table of a person. -/
def table (files : Files) (library : DialogLibrary) (npc : String) :
    DialogLibrary × Except DialogError DialogTable :=
  match library.tables.lookup (key npc) with
  | some table =>
    ({ library.countHit with tables := (key npc, table) :: library.without npc }, .ok table)
  | none =>
    match read files library.directory npc with
    | .error error => (library.countMiss, .error error)
    | .ok table => (library.countMiss.keep npc table, .ok table)

/-- Drops the table of a person, so that the file is read again, and tells whether there was one. -/
def invalidate (library : DialogLibrary) (npc : String) : Bool × DialogLibrary :=
  ((library.tables.lookup (key npc)).isSome, { library with tables := library.without npc })

/-- Asks for the tables of several people; the number of those that could be had. -/
def preload (files : Files) (library : DialogLibrary) : List String → Nat × DialogLibrary
  | [] => (0, library)
  | npc :: rest =>
    let (library, found) := library.table files npc
    let (loaded, library) := preload files library rest
    (loaded + (if found.isOk then 1 else 0), library)

end DialogLibrary

end StoryEngine
