import StoryEngine.Text.Ascii
import StoryEngine.Text.Blank

/-! # Compass directions -/

namespace StoryEngine

set_option autoImplicit false

inductive Direction where
  | north
  | east
  | south
  | west
deriving DecidableEq, Inhabited

namespace Direction

def letter : Direction → Char
  | north => 'N'
  | east => 'E'
  | south => 'S'
  | west => 'W'

def ofLetter? (c : Char) : Option Direction :=
  match c.toUpper with
  | 'N' => some north
  | 'E' => some east
  | 'S' => some south
  | 'W' => some west
  | _ => none

def ofWord? (word : String) : Option Direction :=
  match word with
  | "north" | "up" => some north
  | "east" | "right" => some east
  | "south" | "down" => some south
  | "west" | "left" => some west
  | _ => none

/-- A single letter, or a word, in either case. -/
def parse? (token : String) : Option Direction :=
  match (Text.trim token).toList with
  | [c] => ofLetter? c
  | _ => ofWord? (Text.asciiLower (Text.trim token))

def opposite : Direction → Direction
  | north => south
  | east => west
  | south => north
  | west => east

/-- The letters of a path in order. -/
def spell (path : List Direction) : String := String.ofList (path.map letter)

theorem ofLetter?_letter (d : Direction) : ofLetter? d.letter = some d := by cases d <;> rfl

@[simp] theorem opposite_opposite (d : Direction) : d.opposite.opposite = d := by cases d <;> rfl

end Direction

end StoryEngine
