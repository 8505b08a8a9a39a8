import StoryEngine.Command.Check
import StoryEngine.Command.Overview

/-! # The command line

The program reads what the paths on its command line lead to, runs the command that it is called by,
prints what the command printed, and writes back what the command changed.
-/

namespace StoryEngine.CommandLine

set_option autoImplicit false

def readDirectory (path : String) : IO (List String) := do
  let here : IO.FS.DirEntry := ⟨path, "."⟩
  return ((← here.path.readDir).map fun e => e.fileName).toList

def readFile (path : String) : IO FileEntry := do
  match String.fromUTF8? (← IO.FS.readBinFile path) with
  | some content => return .text content
  | none => return .binary

/-- Adds what is at a path, and what is below it down to a depth. -/
def readTree (path : String) (here : Location) : Nat → Files → IO Files
  | 0, files => return files
  | depth + 1, files => do
    match ← (readDirectory path).toBaseIO with
    | .ok names =>
      names.foldlM (fun files name => readTree (Path.join path name) (name :: here) depth files)
        (files.put here .directory)
    | .error _ =>
      match ← (readFile path).toBaseIO with
      | .ok file => return files.put here file
      | .error _ => return files

/-- Adds what is on the way along the names of a path. -/
def readWay (path : String) (here : Location) : List String → Files → IO Files
  | [], files => return files
  | name :: rest, files => do
    let path := if here = [] then name else path ++ "/" ++ name
    let files ← readTree path (here.step name) 1 files
    readWay path (here.step name) rest files

/-- Content lies in directories right below the root, and a slot may name a directory more. -/
def depthOfContent : Nat := 8

def readContent (root slot : String) : IO Files := do
  let store := SaveStore.ofRoot root
  let mut files : Files := ∅
  for path in [root, store.slotPath slot, store.backupPath slot] do
    let (start, names) := Files.startOf path
    files ← readWay "" start names files
  let (start, names) := Files.startOf root
  readTree root (names.foldl Location.step start) depthOfContent files

def pathOf (here : Location) : String := "/".intercalate here.reverse

def writeBack (before after : Files) : IO Unit := do
  let changed := after.entries.filter fun e => before.find? e.1 ≠ some e.2
  for (here, entry) in changed.reverse do
    match entry with
    | .directory => IO.FS.createDirAll (pathOf here)
    | .text content => IO.FS.writeFile (pathOf here) content
    | .binary => return

def unixTime : IO Nat := do
  let (_, path) ← IO.FS.createTempFile
  let seconds := (← path.metadata).modified.sec
  IO.FS.removeFile path
  return seconds.toNat

def environment : IO (String → Option String) := do
  let values ← Settings.variableNames.mapM fun name => return (name, ← IO.getEnv name)
  return fun name => (values.lookup name).join

/-- One executable serves both commands; it checks content when it is called by that name. -/
def checkName : String := "content_check"

def programName : IO String := do
  return ((Path.names (toString (← IO.appPath))).getLast?).getD ""

def run (arguments : List String) : IO Nat := do
  let program ← programName
  let environment ← environment
  let before ← match arguments with
    | [] => pure ∅
    | root :: rest => readContent root (rest.head?.getD Settings.usualSlot)
  let words := program :: arguments
  let ending ← if program = checkName then pure (Check.run before environment words)
    else pure (Overview.run before environment words (← unixTime))
  writeBack before ending.files
  for line in ending.transcript.output do IO.println line
  for line in ending.transcript.complaints do IO.eprintln line
  return ending.code

end StoryEngine.CommandLine

def main (arguments : List String) : IO UInt32 :=
  return (← StoryEngine.CommandLine.run arguments).toUInt32
