import StoryEngine.Storage.Files
import StoryEngine.Text.Ascii

/-! # The files of a content directory

A content directory is read one file after the other in the order of the names. Which files belong
to it is told by their extensions, in any letter case; directories never do.
-/

namespace StoryEngine.Files

set_option autoImplicit false

def hasExtension (extensions : List String) (name : String) : Bool :=
  match Path.extension? name with
  | some extension => extensions.contains (Text.asciiLower extension)
  | none => false

/-- The names of the files with one of the extensions. -/
def namesWith (files : Files) (extensions : List String) (directory : String) :
    Except FileFault (List String) := do
  let children ← files.list directory
  return (children.filter fun name e => e ≠ .directory ∧ hasExtension extensions name).keys

/-- The names of the files with either extension, listed for one after the other and then put in
order. A second listing that fails adds nothing. -/
def namesWithEither (files : Files) (first second : String) (directory : String) :
    Except FileFault (List String) := do
  let names ← files.namesWith [first] directory
  let others := (files.namesWith [second] directory).toOption.getD []
  return (names ++ others).mergeSort fun a b => decide (a ≤ b)

/-- The paths of the files with one of the extensions. -/
def pathsWith (files : Files) (extensions : List String) (directory : String) :
    Except FileFault (List String) :=
  (files.namesWith extensions directory).map (List.map (Path.join directory))

def scriptExtensions : List String := ["json"]
def dialogExtensions : List String := ["json"]
def scheduleExtensions : List String := ["yaml", "yml"]

end StoryEngine.Files
