import StoryEngine.Yaml.Cursor

/-! # YAML scalars

A scalar may go over several lines. A single break between two of its lines becomes a blank, and of
several breaks the first is left out; the blanks around them go.
-/

namespace StoryEngine.Yaml

set_option autoImplicit false

/-- White space met in a scalar: the blanks before the first break, and the breaks. A break that is
escaped is not among them, but it begins a line all the same. -/
structure Gap where
  blanks : List Char
  breaks : List Char
  escaped : Bool

namespace Gap

def empty : Gap := ⟨[], [], false⟩

def afterEscapedBreak : Gap := ⟨[], [], true⟩

def leavesLine (gap : Gap) : Bool := gap.escaped || gap.breaks != []

def text (gap : Gap) : List Char :=
  if gap.escaped then gap.breaks
  else
    match gap.breaks with
    | [] => gap.blanks
    | ['\n'] => [' ']
    | '\n' :: more => more
    | breaks => breaks

def add (gap : Gap) (c : Char) : Gap :=
  if isBreak c then { gap with breaks := gap.breaks ++ [c] }
  else if gap.leavesLine then gap
  else { gap with blanks := gap.blanks ++ [c] }

end Gap

/-- Takes white space. A tab in the indentation of a further line is refused when that line has to
be indented to `indent`. -/
def takeGap (indent : Nat) : Nat → Gap → Cursor → Option (Gap × Cursor)
  | 0, gap, c => some (gap, c)
  | fuel + 1, gap, c =>
    match c.rest with
    | [] => some (gap, c)
    | x :: _ =>
      if isBlank x || isBreak x then
        if x == '\t' && gap.leavesLine && c.column < indent then none
        else takeGap indent fuel (gap.add x) c.step
      else some (gap, c)

def isFlowMark (c : Char) : Bool := c == ',' || c == '[' || c == ']' || c == '{' || c == '}'

/-- Whether a plain scalar goes on at a character, seen the one behind it. -/
def goesOn (inFlow : Bool) (c : Char) (next : Option Char) : Bool :=
  !blankOrEnd (some c) && !(c == ':' && blankOrEnd next) && !(inFlow && isFlowMark c) &&
    !(inFlow && c == ':' && next.any fun n => isFlowMark n || n == '?')

/-- A colon right before a mark of a flow collection. -/
def colonBeforeMark (inFlow : Bool) (c : Cursor) : Bool :=
  inFlow && c.peek 0 == some ':' && (c.peek 1).any fun n => isFlowMark n || n == '?'

structure ScannedScalar where
  text : List Char
  /-- Whether the scalar was left by going to another line. -/
  leftLine : Bool
  cursor : Cursor

/-- Reads a plain scalar. Outside of flow collections its further lines are indented. -/
def scanPlain (inFlow : Bool) (indent : Nat) : Nat → List Char → Gap → Cursor →
    Option ScannedScalar
  | 0, _, _, _ => none
  | fuel + 1, text, gap, c =>
    if c.atDocumentMark || c.peek 0 == some '#' then some ⟨text, gap.leavesLine, c⟩
    else
      let (run, after) := c.takeWhile (goesOn inFlow) c.remaining
      if colonBeforeMark inFlow after then none
      else
        let text := if run = [] then text else text ++ gap.text ++ run
        let gap := if run = [] then gap else .empty
        match after.rest with
        | [] => some ⟨text, gap.leavesLine, after⟩
        | x :: _ =>
          if isBlank x || isBreak x then do
            let (gap, after) ← takeGap indent after.remaining .empty after
            if !inFlow && after.column < indent then some ⟨text, gap.leavesLine, after⟩
            else scanPlain inFlow indent fuel text gap after
          else some ⟨text, gap.leavesLine, after⟩

def hexValue? (c : Char) : Option Nat :=
  if c.isDigit then some (c.toNat - 48)
  else if 97 ≤ c.toNat ∧ c.toNat ≤ 102 then some (c.toNat - 87)
  else if 65 ≤ c.toNat ∧ c.toNat ≤ 70 then some (c.toNat - 55)
  else none

def hexChar? (digits : List Char) : Option Char := do
  let values ← digits.mapM hexValue?
  let n := values.foldl (fun n d => n * 16 + d) 0
  if n < 0xD800 ∨ 0xDFFF < n ∧ n ≤ 0x10FFFF then some (Char.ofNat n) else none

/-- What a character behind a backslash stands for, and how many hexadecimal digits follow it. -/
def escapeMeaning? : Char → Option (Char ⊕ Nat)
  | '0' => some (.inl (Char.ofNat 0))
  | 'a' => some (.inl (Char.ofNat 7))
  | 'b' => some (.inl (Char.ofNat 8))
  | 't' | '\t' => some (.inl '\t')
  | 'n' => some (.inl '\n')
  | 'v' => some (.inl (Char.ofNat 11))
  | 'f' => some (.inl (Char.ofNat 12))
  | 'r' => some (.inl '\r')
  | 'e' => some (.inl (Char.ofNat 27))
  | ' ' => some (.inl ' ')
  | '"' => some (.inl '"')
  | '/' => some (.inl '/')
  | '\\' => some (.inl '\\')
  | 'N' => some (.inl (Char.ofNat 0x85))
  | '_' => some (.inl (Char.ofNat 0xA0))
  | 'L' => some (.inl (Char.ofNat 0x2028))
  | 'P' => some (.inl (Char.ofNat 0x2029))
  | 'x' => some (.inr 2)
  | 'u' => some (.inr 4)
  | 'U' => some (.inr 8)
  | _ => none

/-- Reads an escape whose backslash has been passed. -/
def takeEscape (c : Cursor) : Option (Char × Cursor) := do
  let mark ← c.peek 0
  match ← escapeMeaning? mark with
  | .inl meant => some (meant, c.step)
  | .inr count =>
    let digits := c.step.rest.take count
    if digits.length = count then (hexChar? digits).map fun meant => (meant, c.step.steps count)
    else none

def singleQuote : Char := Char.ofNat 39

/-- Reads a quoted scalar to the end, from behind the first quote. -/
def scanQuoted (quote : Char) : Nat → List Char → Gap → Cursor → Option ScannedScalar
  | 0, _, _, _ => none
  | fuel + 1, text, gap, c =>
    match c.rest with
    | [] => none
    | x :: _ =>
      if c.atDocumentMark then none
      else if isBlank x || isBreak x then scanQuoted quote fuel text (gap.add x) c.step
      else
        let text := text ++ gap.text
        if x == quote && quote == singleQuote && c.peek 1 == some singleQuote then
          scanQuoted quote fuel (text ++ [singleQuote]) .empty (c.steps 2)
        else if x == quote then some ⟨text, false, c.step⟩
        else if x == '\\' && quote == '"' then
          if (c.peek 1).any isBreak then scanQuoted quote fuel text .afterEscapedBreak (c.steps 2)
          else do
            let (meant, c) ← takeEscape c.step
            scanQuoted quote fuel (text ++ [meant]) .empty c
        else scanQuoted quote fuel (text ++ [x]) .empty c.step

end StoryEngine.Yaml
