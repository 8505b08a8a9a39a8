/-! # JSON values

A member of an object keeps its place, also when its key comes twice. Text that is well formed but
stands for no whole number and no Unicode text is foreign: a number with a fraction or an exponent,
a string with half a surrogate pair, an object with such a key. It is kept as it was written; it is
sound when a reader that has to understand it could.
-/

namespace StoryEngine

set_option autoImplicit false

inductive Json where
  | null
  | bool (value : Bool)
  | number (value : Int)
  | string (value : String)
  | array (elements : List Json)
  | object (members : List (String × Json))
  | foreign (source : List Char) (sound : Bool)

namespace Json

/-- The first number too large for double precision. -/
def numberLimit : Nat := Nat.pow 2 1024 - Nat.pow 2 970

mutual

/-- Whether a reader that has to understand everything, to a limited depth, gets through. -/
def isSound (depth : Nat) : Json → Bool
  | null | bool _ | string _ => true
  | number n => n.natAbs < numberLimit
  | array elements => 0 < depth && allSound (depth - 1) elements
  | object members => 0 < depth && allMembersSound (depth - 1) members
  | foreign _ sound => sound

def allSound (depth : Nat) : List Json → Bool
  | [] => true
  | v :: rest => isSound depth v && allSound depth rest

def allMembersSound (depth : Nat) : List (String × Json) → Bool
  | [] => true
  | (_, v) :: rest => isSound depth v && allMembersSound depth rest

end

end Json

end StoryEngine
