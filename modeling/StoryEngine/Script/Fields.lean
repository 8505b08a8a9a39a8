import StoryEngine.Text.Blank
import StoryEngine.Text.Split

/-! # The separators of a script line

A line is `conditions ++ action`, or an action alone. Conditions, and the targets of some verbs, are
joined by `&&`. A verb and its value are joined by `=`, and the fields of a value by `__`.
-/

namespace StoryEngine.Script

set_option autoImplicit false

open Text (trim splitFirst splitAll)

def conditionMark : String := "++"
def listMark : String := "&&"
def fieldMark : String := "__"
def valueMark : String := "="

/-- Only the first `++` separates; the action may hold further ones. -/
def splitLine (line : String) : Option String × String :=
  match splitFirst conditionMark line with
  | some (conditions, action) => (some (trim conditions), trim action)
  | none => (none, trim line)

/-- The parts that are not blank, trimmed. -/
def splitList (sep s : String) : List String :=
  ((splitAll sep s).map trim).filter (· ≠ "")

/-- The fields of a value, trimmed. Blank fields keep their place. -/
def fields (value : String) : List String := (splitAll fieldMark value).map trim

/-- Cuts at the first `=`; the part in front of it must not be blank. -/
def keyValue? (token : String) : Option (String × String) :=
  match splitFirst valueMark token with
  | some (key, value) => if trim key = "" then none else some (trim key, trim value)
  | none => none

end StoryEngine.Script
