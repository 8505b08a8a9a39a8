import StoryEngine.Collection.StringMap
import StoryEngine.Text.Numeral
import StoryEngine.World.Position

/-! # Actors -/

namespace StoryEngine

set_option autoImplicit false

inductive ArgValue where
  | number (value : Int)
  | text (value : String)
deriving DecidableEq

namespace ArgValue

/-- A text that reads as a 64-bit number is one. -/
def parse (raw : String) : ArgValue :=
  match Text.Numeral.intWithin? Text.Numeral.signed64 (Text.trim raw) with
  | some n => number n
  | none => text (Text.trim raw)

def number? : ArgValue → Option Int
  | number n => some n
  | text _ => none

end ArgValue

structure Actor where
  name : String
  kind : String
  position : Position
  facing : Direction
  hidden : Bool
  args : StringMap ArgValue
  path : List Direction
deriving DecidableEq

namespace Actor

/-- An actor as it enters a map: facing south, visible, standing still. -/
def arriving (name kind : String) (position : Position) : Actor :=
  ⟨name, kind, position, .south, false, ∅, []⟩

def isWalking (a : Actor) : Bool := !a.path.isEmpty

end Actor

end StoryEngine
