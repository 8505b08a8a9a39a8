import StoryEngine.Text.Split

/-! # Paths

A path is a text of names with slashes between them. Joining keeps the spelling of both parts, so
that a message shows a path as it was given.
-/

namespace StoryEngine.Path

set_option autoImplicit false

def isAbsolute (path : String) : Bool := path.toList.head? == some '/'

/-- The path of a name below a directory. An absolute name stands for itself. -/
def join (directory name : String) : String :=
  if isAbsolute name then name
  else if directory = "" ∨ directory.toList.getLast? = some '/' then directory ++ name
  else directory ++ "/" ++ name

def names (path : String) : List String := Text.splitAll "/" path

/-- What stands before and after the last point of a file name. A name without a point has no
extension, and neither has one whose only point is at the start. -/
def splitName (name : String) : String × Option String :=
  let backwards := name.toList.reverse
  match (backwards.dropWhile (· ≠ '.')).drop 1 with
  | [] => (name, none)
  | stem => (.ofList stem.reverse, some (.ofList (backwards.takeWhile (· ≠ '.')).reverse))

def stem (name : String) : String := (splitName name).1

def extension? (name : String) : Option String := (splitName name).2

end StoryEngine.Path
