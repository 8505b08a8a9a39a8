/-! # A place in a YAML text

A text is read from left to right. Where a token begins, by line and column, decides what it belongs
to.
-/

namespace StoryEngine.Yaml

set_option autoImplicit false

def isBlank (c : Char) : Bool := c == ' ' || c == '\t'

def isBreak (c : Char) : Bool := c == '\n' || c.toNat == 0x2028 || c.toNat == 0x2029

def blankOrEnd : Option Char → Bool
  | none => true
  | some c => isBlank c || isBreak c

/-- The characters that may stand in a text. -/
def isPrintable (c : Char) : Bool :=
  let n := c.toNat
  n == 9 || n == 10 || n == 13 || (0x20 ≤ n && n ≤ 0x7E) || n == 0x85 ||
    (0xA0 ≤ n && n ≤ 0xFFFD && n != 0xFEFF) || 0x10000 ≤ n

/-- Writes every line break but the two separators of Unicode as a line feed. -/
def unifyBreaks : List Char → List Char
  | [] => []
  | '\r' :: '\n' :: rest => '\n' :: unifyBreaks rest
  | c :: rest => (if c == '\r' || c.toNat == 0x85 then '\n' else c) :: unifyBreaks rest

def dropOrderMark : List Char → List Char
  | c :: rest => if c.toNat = 0xFEFF then rest else c :: rest
  | [] => []

structure Cursor where
  rest : List Char
  line : Nat
  column : Nat
  index : Nat

namespace Cursor

/-- The start of a text all of whose characters may stand there. -/
def ofText? (s : String) : Option Cursor :=
  let cs := dropOrderMark s.toList
  if cs.all isPrintable then some ⟨unifyBreaks cs, 0, 0, 0⟩ else none

def peek (c : Cursor) (ahead : Nat) : Option Char := c.rest[ahead]?

def step (c : Cursor) : Cursor :=
  match c.rest with
  | [] => c
  | x :: rest =>
    if isBreak x then ⟨rest, c.line + 1, 0, c.index + 1⟩
    else ⟨rest, c.line, c.column + 1, c.index + 1⟩

def steps (c : Cursor) : Nat → Cursor
  | 0 => c
  | n + 1 => c.step.steps n

/-- Takes characters as long as a test on the text from there on says so. -/
def takeWhile (test : Char → Option Char → Bool) : Nat → Cursor → List Char × Cursor
  | 0, c => ([], c)
  | fuel + 1, c =>
    match c.rest with
    | [] => ([], c)
    | x :: _ =>
      if test x (c.peek 1) then
        let (taken, c) := takeWhile test fuel c.step
        (x :: taken, c)
      else ([], c)

def remaining (c : Cursor) : Nat := c.rest.length

/-- Three dashes or three points that stand alone at the start of a line. -/
def atDocumentMark (c : Cursor) : Bool :=
  c.column == 0 && blankOrEnd (c.peek 3) &&
    (c.rest.take 3 == ['-', '-', '-'] || c.rest.take 3 == ['.', '.', '.'])

end Cursor

end StoryEngine.Yaml
