import StoryEngine.Collection.StringMap
import StoryEngine.Storage.Path

/-! # Stored files

A store of files and directories, reached by paths. A path is followed name by name, and every name
that is passed has to be a directory. An operation that fails says why and leaves the store as it
was, except that directories made on the way stay.
-/

namespace StoryEngine

set_option autoImplicit false

inductive FileEntry where
  | text (content : String)
  /-- A file whose bytes are no text. -/
  | binary
  | directory
deriving DecidableEq

inductive FileFault where
  | notFound
  | notDirectory
  | isDirectory
  | alreadyExists
  | notText
deriving DecidableEq

def FileFault.message : FileFault → String
  | notFound => "No such file or directory (os error 2)"
  | notDirectory => "Not a directory (os error 20)"
  | isDirectory => "Is a directory (os error 21)"
  | alreadyExists => "File exists (os error 17)"
  | notText => "stream did not contain valid UTF-8"

/-- The names on the way to an entry, the last one first. The empty list is the directory that
relative paths start from, and the list of one empty name the one for absolute paths. -/
abbrev Location := List String

namespace Location

def parent : Location → Location
  | [] => [".."]
  | [""] => [""]
  | ".." :: up => ".." :: ".." :: up
  | _ :: up => up

def step (here : Location) (name : String) : Location :=
  if name = "" ∨ name = "." then here
  else if name = ".." then here.parent
  else name :: here

end Location

structure Files where
  entries : List (Location × FileEntry)

namespace Files

def empty : Files := ⟨[]⟩

instance : EmptyCollection Files := ⟨empty⟩

def find? (files : Files) (here : Location) : Option FileEntry :=
  if here = [] ∨ here = [""] then some .directory else files.entries.lookup here

def clear (files : Files) (here : Location) : Files :=
  ⟨files.entries.filter fun e => e.1 != here⟩

def put (files : Files) (here : Location) (entry : FileEntry) : Files :=
  ⟨(here, entry) :: (files.clear here).entries⟩

def descend (files : Files) (here : Location) : List String → Except FileFault Location
  | [] => .ok here
  | name :: rest =>
    match files.find? here with
    | some .directory => descend files (here.step name) rest
    | some _ => .error .notDirectory
    | none => .error .notFound

/-- Where a path starts, and the names to follow from there. -/
def startOf (path : String) : Location × List String :=
  match Path.names path with
  | "" :: names => ([""], names)
  | names => ([], names)

/-- Where a path leads. All but its end has to be there. -/
def locate (files : Files) (path : String) : Except FileFault Location :=
  if path = "" then .error .notFound
  else files.descend (startOf path).1 (startOf path).2

def entry (files : Files) (path : String) : Except FileFault FileEntry := do
  match files.find? (← files.locate path) with
  | some entry => return entry
  | none => throw .notFound

def isPresent (files : Files) (path : String) : Bool := (files.entry path).isOk

def isDirectory (files : Files) (path : String) : Bool :=
  match files.entry path with
  | .ok .directory => true
  | _ => false

def isFile (files : Files) (path : String) : Bool :=
  match files.entry path with
  | .ok (.text _) | .ok .binary => true
  | _ => false

def readText (files : Files) (path : String) : Except FileFault String := do
  match ← files.entry path with
  | .text content => return content
  | .binary => throw .notText
  | .directory => throw .isDirectory

/-- The entries right below a directory, by name. -/
def children (files : Files) (here : Location) : StringMap FileEntry :=
  .ofList (files.entries.filterMap fun
    | (name :: up, entry) => if up = here then some (name, entry) else none
    | ([], _) => none)

def list (files : Files) (path : String) : Except FileFault (StringMap FileEntry) := do
  let here ← files.locate path
  match files.find? here with
  | some .directory => return files.children here
  | some _ => throw .notDirectory
  | none => throw .notFound

/-- Puts a file in place of another one, or where there is none. -/
def place (files : Files) (path : String) (file : FileEntry) : Files × Except FileFault Unit :=
  match files.locate path with
  | .error fault => (files, .error fault)
  | .ok here =>
    if files.find? here = some .directory then (files, .error .isDirectory)
    else (files.put here file, .ok ())

def write (files : Files) (path content : String) : Files × Except FileFault Unit :=
  files.place path (.text content)

def copy (files : Files) (source target : String) : Files × Except FileFault Unit :=
  match files.entry source with
  | .error fault => (files, .error fault)
  | .ok .directory => (files, .error .isDirectory)
  | .ok file => files.place target file

/-- Adds to the end of a file, which is made if there is none. Text does not turn other bytes into
text. -/
def append (files : Files) (path content : String) : Files × Except FileFault Unit :=
  match files.entry path with
  | .ok (.text before) => files.write path (before ++ content)
  | .ok .binary => (files, .ok ())
  | _ => files.write path content

def remove (files : Files) (path : String) : Files × Except FileFault Unit :=
  match files.locate path with
  | .error fault => (files, .error fault)
  | .ok here =>
    match files.find? here with
    | none => (files, .error .notFound)
    | some .directory => (files, .error .isDirectory)
    | some _ => (files.clear here, .ok ())

def makeDirsFrom (files : Files) (here : Location) : List String → Files × Except FileFault Unit
  | [] =>
    match files.find? here with
    | some .directory => (files, .ok ())
    | some _ => (files, .error .alreadyExists)
    | none => (files.put here .directory, .ok ())
  | name :: rest =>
    match files.find? here with
    | some .directory => makeDirsFrom files (here.step name) rest
    | some _ => (files, .error .notDirectory)
    | none => makeDirsFrom (files.put here .directory) (here.step name) rest

/-- Makes a directory and those above it, as far as they are missing. -/
def makeDirs (files : Files) (path : String) : Files × Except FileFault Unit :=
  if path = "" then (files, .ok ())
  else files.makeDirsFrom (startOf path).1 (startOf path).2

inductive Change where
  | copy (source target : String)
  | write (path content : String)
deriving DecidableEq

def Change.target : Change → String
  | copy _ target => target
  | write path _ => path

def perform (files : Files) : Change → Files × Except FileFault Unit
  | .copy source target => files.copy source target
  | .write path content => files.write path content

/-- Makes changes in order up to the first that fails. -/
def performAll (files : Files) : List Change → Files × Except (Change × FileFault) Unit
  | [] => (files, .ok ())
  | change :: rest =>
    match files.perform change with
    | (files, .error fault) => (files, .error (change, fault))
    | (files, .ok ()) => performAll files rest

theorem lookup_filter_ne (here there : Location) (entries : List (Location × FileEntry)) :
    (entries.filter fun e => e.1 != here).lookup there =
      if there = here then none else entries.lookup there := by
  induction entries with
  | nil => simp
  | cons e rest ih =>
    by_cases he : e.1 = here
    · rw [List.filter_cons_of_neg (by simp [he]), ih, List.lookup_cons]
      by_cases ht : there = here
      · simp [ht]
      · have : (there == e.1) = false := by simpa [he] using ht
        simp [ht, this]
    · rw [List.filter_cons_of_pos (by simpa using he), List.lookup_cons, List.lookup_cons, ih]
      by_cases ht : there = here
      · subst ht
        have : (there == e.1) = false := by simpa using fun h => he h.symm
        simp [this]
      · simp [ht]

theorem find?_clear (files : Files) (here there : Location) (h : there ≠ [] ∧ there ≠ [""]) :
    (files.clear here).find? there = if there = here then none else files.find? there := by
  simp [find?, clear, h.1, h.2, lookup_filter_ne]

theorem find?_put (files : Files) (here there : Location) (entry : FileEntry)
    (h : there ≠ [] ∧ there ≠ [""]) :
    (files.put here entry).find? there = if there = here then some entry else files.find? there := by
  by_cases ht : there = here
  · subst ht
    simp [find?, put, h.1, h.2]
  · have : (there == here) = false := by simpa using ht
    simp [find?, put, clear, h.1, h.2, ht, List.lookup_cons, this, lookup_filter_ne]

end Files

end StoryEngine
