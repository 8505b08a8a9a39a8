import StoryEngine.Yaml.Scalar

/-! # YAML tokens

Indentation opens and closes block collections. A key of a mapping is known only when its colon is
met, so the tokens of the key are marked afterwards; it has to lie on one line and within 1024
characters. Tags, anchors, directives, block scalars and keys with a question mark are not read.
-/

namespace StoryEngine.Yaml

set_option autoImplicit false

inductive Token where
  | documentStart
  | documentEnd
  | sequenceStart
  | mappingStart
  | blockEnd
  | blockEntry
  | flowSequenceStart
  | flowSequenceEnd
  | flowMappingStart
  | flowMappingEnd
  | flowEntry
  | key
  | value
  | scalar (text : String) (plain : Bool)
deriving DecidableEq

/-- A place where a key may have begun. A required one is no key only by mistake. -/
structure KeyCandidate where
  token : Nat
  line : Nat
  column : Nat
  index : Nat
  required : Bool

/-- `keys` has one place for each flow collection that is open and one for the block around them;
`indents` are the columns of the block collections that are open. -/
structure Scanner where
  cursor : Cursor
  tokens : Array Token
  indents : List Nat
  keys : List (Option KeyCandidate)
  keyAllowed : Bool

namespace Scanner

def inFlow (s : Scanner) : Bool := 1 < s.keys.length

/-- The column at which the lines of the innermost block collection stand, one more than it; zero
where no collection is open. -/
def indentAbove (s : Scanner) : Nat := (s.indents.head?.map (· + 1)).getD 0

def emit (s : Scanner) (t : Token) : Scanner := { s with tokens := s.tokens.push t }

def insertAt (tokens : Array Token) (place : Nat) (t : Token) : Array Token :=
  (tokens.toList.take place ++ t :: tokens.toList.drop place).toArray

/-- Gives up the key candidate of the innermost collection. -/
def dropKey (s : Scanner) : Option Scanner :=
  match s.keys with
  | some k :: rest => if k.required then none else some { s with keys := none :: rest }
  | _ => some s

/-- Notes that a key may begin here. -/
def noteKey (s : Scanner) : Option Scanner :=
  if s.keyAllowed then do
    let s ← s.dropKey
    let c := s.cursor
    let required := !s.inFlow && s.indents.head? == some c.column
    return { s with
      keys := some ⟨s.tokens.size, c.line, c.column, c.index, required⟩ :: s.keys.tail }
  else some s

/-- Gives up the candidates that began on another line or too far away. -/
def dropStaleKeys (s : Scanner) : Option Scanner :=
  let stale (k : KeyCandidate) : Bool :=
    k.line < s.cursor.line || k.index + 1024 < s.cursor.index
  if s.keys.any fun k => k.any fun k => stale k && k.required then none
  else some { s with keys := s.keys.map fun k => k.filter fun k => !stale k }

/-- Opens a block collection if its column lies deeper than the last one. -/
def openBlock (s : Scanner) (column place : Nat) (t : Token) : Scanner :=
  if !s.inFlow && s.indentAbove ≤ column then
    { s with indents := column :: s.indents, tokens := insertAt s.tokens place t }
  else s

def closeWhile (s : Scanner) (deeper : Nat → Bool) : Scanner :=
  if s.inFlow then s
  else
    let closed := s.indents.takeWhile deeper
    { s with
      indents := s.indents.dropWhile deeper
      tokens := s.tokens ++ (closed.map fun _ => Token.blockEnd).toArray }

/-- Closes the block collections that lie deeper than the column. -/
def closeBlocks (s : Scanner) (column : Nat) : Scanner := s.closeWhile (column < ·)

def advance (s : Scanner) (n : Nat) : Scanner := { s with cursor := s.cursor.steps n }

/-- Passes blanks, comments and breaks. A tab may not stand where a key could begin. -/
def skipSpace : Nat → Scanner → Scanner
  | 0, s => s
  | fuel + 1, s =>
    match s.cursor.rest with
    | [] => s
    | x :: _ =>
      if x == ' ' || (x == '\t' && (s.inFlow || !s.keyAllowed)) then skipSpace fuel (s.advance 1)
      else if x == '#' then
        let after := (s.cursor.takeWhile (fun x _ => !isBreak x) s.cursor.remaining).2
        skipSpace fuel { s with cursor := after }
      else if isBreak x then
        let s := s.advance 1
        skipSpace fuel (if s.inFlow then s else { s with keyAllowed := true })
      else s

def openFlow (s : Scanner) (t : Token) : Option Scanner := do
  let s ← s.noteKey
  return ({ s with keys := none :: s.keys, keyAllowed := true }.emit t).advance 1

def closeFlow (s : Scanner) (t : Token) : Option Scanner := do
  let s ← s.dropKey
  let keys := match s.keys with
    | _ :: outer :: rest => outer :: rest
    | keys => keys
  return ({ s with keys, keyAllowed := false }.emit t).advance 1

def takeEntryMark (s : Scanner) : Option Scanner := do
  let s ← s.dropKey
  return ({ s with keyAllowed := true }.emit .flowEntry).advance 1

def takeDash (s : Scanner) : Option Scanner := do
  if !s.inFlow && !s.keyAllowed then none
  else
    let s := s.openBlock s.cursor.column s.tokens.size .sequenceStart
    let s ← s.dropKey
    return ({ s with keyAllowed := true }.emit .blockEntry).advance 1

/-- A colon turns the candidate before it into a key. -/
def takeColon (s : Scanner) : Option Scanner :=
  match s.keys with
  | some k :: rest =>
    let s := { s with keys := none :: rest, tokens := insertAt s.tokens k.token .key }
    let s := s.openBlock k.column k.token .mappingStart
    some (({ s with keyAllowed := false }.emit .value).advance 1)
  | _ =>
    if !s.inFlow && !s.keyAllowed then none
    else
      let s := s.openBlock s.cursor.column s.tokens.size .mappingStart
      some (({ s with keyAllowed := !s.inFlow }.emit .value).advance 1)

def takeDocumentMark (s : Scanner) (t : Token) : Option Scanner := do
  let s := s.closeWhile fun _ => true
  let s ← s.dropKey
  return ({ s with keyAllowed := false }.emit t).advance 3

def takeQuoted (s : Scanner) (quote : Char) : Option Scanner := do
  let s ← s.noteKey
  let start := s.cursor.step
  let found ← scanQuoted quote (start.remaining + 1) [] .empty start
  return { s with cursor := found.cursor, keyAllowed := false }.emit
    (.scalar (.ofList found.text) false)

def takePlain (s : Scanner) : Option Scanner := do
  let s ← s.noteKey
  let found ← scanPlain s.inFlow s.indentAbove (s.cursor.remaining + 1) [] .empty s.cursor
  return { s with cursor := found.cursor, keyAllowed := found.leftLine }.emit
    (.scalar (.ofList found.text) true)

/-- Characters that begin no plain scalar. -/
def marks : List Char :=
  ['-', '?', ':', ',', '[', ']', '{', '}', '#', '&', '*', '!', '|', '>', '"', '%', '@',
    singleQuote, Char.ofNat 96]

/-- Whether a plain scalar begins with a character, seen the one behind it. -/
def beginsPlain (inFlow : Bool) (x : Char) (next : Option Char) : Bool :=
  (!blankOrEnd (some x) && !marks.contains x) || (x == '-' && !next.any isBlank) ||
    (!inFlow && (x == '?' || x == ':') && !blankOrEnd next)

def takeToken (s : Scanner) (x : Char) : Option Scanner :=
  let next := s.cursor.peek 1
  if s.cursor.column = 0 ∧ x = '%' then none
  else if s.cursor.atDocumentMark then
    s.takeDocumentMark (if x = '-' then .documentStart else .documentEnd)
  else if x = '[' then s.openFlow .flowSequenceStart
  else if x = '{' then s.openFlow .flowMappingStart
  else if x = ']' then s.closeFlow .flowSequenceEnd
  else if x = '}' then s.closeFlow .flowMappingEnd
  else if x = ',' then s.takeEntryMark
  else if x = '-' ∧ blankOrEnd next then s.takeDash
  else if x = ':' ∧ (s.inFlow ∨ blankOrEnd next) then s.takeColon
  else if x = '"' ∨ x = singleQuote then s.takeQuoted x
  else if beginsPlain s.inFlow x next then s.takePlain
  else none

def scan : Nat → Scanner → Option (List Token)
  | 0, _ => none
  | fuel + 1, s => do
    let s := skipSpace s.cursor.remaining s
    let s ← s.dropStaleKeys
    let s := s.closeBlocks s.cursor.column
    match s.cursor.rest with
    | [] =>
      let s ← (s.closeWhile fun _ => true).dropKey
      return s.tokens.toList
    | x :: _ =>
      let s ← s.takeToken x
      scan fuel s

end Scanner

def tokens? (text : String) : Option (List Token) := do
  let c ← Cursor.ofText? text
  Scanner.scan (c.remaining + 1) ⟨c, #[], [], [none], true⟩

end StoryEngine.Yaml
