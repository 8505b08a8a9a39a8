import StoryEngine.Save.State
import StoryEngine.Storage.Files

/-! # Save slots

Each slot of a store is a file, with a second file that holds what the slot held before. A slot
that cannot be read gives way to the second file.
-/

namespace StoryEngine

set_option autoImplicit false

inductive SaveError where
  | io (path : String) (fault : FileFault)
  | malformed (path : String)
  | version (path : String) (found : Nat)
deriving DecidableEq

def SaveError.message : SaveError → String
  | io path fault => s!"save io failed for {path}: {fault.message}"
  | malformed path => s!"save parse failed for {path}: not a save"
  | version path found => s!"save {path} has unsupported version {found}"

structure SaveReport where
  files : Nat
  parsed : Nat
  errors : List SaveError
  missingDirectory : Bool
deriving DecidableEq

structure SaveStore where
  directory : String
deriving DecidableEq

namespace SaveStore

def ofRoot (root : String) : SaveStore := ⟨Path.join root "save"⟩

def slotPath (store : SaveStore) (slot : String) : String :=
  Path.join store.directory (slot ++ ".json")

def backupPath (store : SaveStore) (slot : String) : String :=
  Path.join store.directory (slot ++ ".json.bak")

/-- The save in a file, or none if there is no such file. -/
def read (files : Files) (path : String) : Except SaveError (Option SaveState) :=
  match files.readText path with
  | .error .notFound => .ok none
  | .error fault => .error (.io path fault)
  | .ok content =>
    match SaveState.parse? content with
    | none => .error (.malformed path)
    | some s =>
      if s.version ≤ SaveState.currentVersion then .ok (some s) else .error (.version path s.version)

def load (files : Files) (store : SaveStore) (slot : String) :
    Except SaveError (Option SaveState) :=
  match read files (store.slotPath slot) with
  | .ok (some s) => .ok (some s)
  | .ok none => read files (store.backupPath slot)
  | .error error =>
    match read files (store.backupPath slot) with
    | .ok (some s) => .ok (some s)
    | _ => .error error

/-- What a save changes once its directory is there: the slot is copied aside before it is written
over. -/
def changes (files : Files) (store : SaveStore) (slot : String) (s : SaveState) :
    List Files.Change :=
  let backup := if files.isPresent (store.slotPath slot) then
      [.copy (store.slotPath slot) (store.backupPath slot)]
    else []
  backup ++ [.write (store.slotPath slot) s.render]

def save (files : Files) (store : SaveStore) (slot : String) (s : SaveState) :
    Files × Except SaveError Unit :=
  match files.makeDirs store.directory with
  | (files, .error fault) => (files, .error (.io store.directory fault))
  | (files, .ok ()) =>
    match files.performAll (changes files store slot s) with
    | (files, .error (change, fault)) => (files, .error (.io change.target fault))
    | (files, .ok ()) => (files, .ok ())

end SaveStore

namespace SaveReport

def missing : SaveReport := ⟨0, 0, [], true⟩

/-- The report on a directory that cannot be listed. -/
def ofError (error : SaveError) : SaveReport := ⟨0, 0, [error], false⟩

def addFile (files : Files) (report : SaveReport) (path : String) : SaveReport :=
  match SaveStore.read files path with
  | .ok _ => { report with files := report.files + 1, parsed := report.parsed + 1 }
  | .error error => { report with files := report.files + 1, errors := report.errors ++ [error] }

end SaveReport

/-- Reads every entry whose extension is that of a slot; second files are passed over. -/
def SaveStore.validate (files : Files) (store : SaveStore) : SaveReport :=
  match files.list store.directory with
  | .error .notFound => .missing
  | .error fault => .ofError (.io store.directory fault)
  | .ok children =>
    let slots := children.keys.filter fun name => Path.extension? name == some "json"
    (slots.map (Path.join store.directory)).foldl (SaveReport.addFile files) ⟨0, 0, [], false⟩

end StoryEngine
