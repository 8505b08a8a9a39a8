import StoryEngine.Json.Text
import StoryEngine.Json.Value

/-! # Reading JSON

One value, with blanks around it, and nothing else.
-/

namespace StoryEngine.Json

set_option autoImplicit false

def isSpace (c : Char) : Bool := c == ' ' || c == '\t' || c == '\n' || c == '\r'

def skipSpace (cs : List Char) : List Char := cs.dropWhile isSpace

def takeDigits (cs : List Char) : Option (List Char × List Char) :=
  match cs.takeWhile Char.isDigit with
  | [] => none
  | digits => some (digits, cs.dropWhile Char.isDigit)

def takeFraction : List Char → Option (List Char × List Char)
  | '.' :: rest => takeDigits rest
  | rest => some ([], rest)

def takeExponent (cs : List Char) : Option (Option Int × List Char) :=
  match cs with
  | e :: rest =>
    if e = 'e' ∨ e = 'E' then
      match rest with
      | '+' :: rest => (takeDigits rest).map fun (ds, r) => (some (Nat.ofDigitChars 10 ds 0 : Int), r)
      | '-' :: rest => (takeDigits rest).map fun (ds, r) => (some (-(Nat.ofDigitChars 10 ds 0 : Int)), r)
      | _ => (takeDigits rest).map fun (ds, r) => (some (Nat.ofDigitChars 10 ds 0 : Int), r)
    else some (none, cs)
  | [] => some (none, cs)

/-- Whether `digits * 10 ^ exponent` lies in the range of double precision. -/
def inRange (digits : List Char) (exponent : Int) : Bool :=
  let n := Nat.ofDigitChars 10 digits 0
  let size : Int := Int.ofNat (Nat.toDigits 10 n).length + exponent
  n == 0 || size < 300 ||
    (size < 320 &&
      if 0 ≤ exponent then n * Nat.pow 10 exponent.toNat < numberLimit
      else n < numberLimit * Nat.pow 10 (-exponent).toNat)

/-- Whole numbers have no leading zeros. A zero with a minus sign is not one of them. -/
def takeUnsigned (minus : Bool) (cs : List Char) : Option (Json × List Char) := do
  let (whole, rest) ← takeDigits cs
  if whole.head? = some '0' ∧ whole.length ≠ 1 then none
  else
    let (fraction, rest) ← takeFraction rest
    let (exponent, rest) ← takeExponent rest
    let n : Int := Nat.ofDigitChars 10 whole 0
    if fraction = [] ∧ exponent = none ∧ ¬(minus ∧ n = 0) then
      return (.number (if minus then -n else n), rest)
    else
      let digits := cs.take (cs.length - rest.length)
      let sound := inRange (whole ++ fraction) (exponent.getD 0 - Int.ofNat fraction.length)
      return (.foreign (if minus then '-' :: digits else digits) sound, rest)

def takeNumber : List Char → Option (Json × List Char)
  | '-' :: rest => takeUnsigned true rest
  | cs => takeUnsigned false cs

/-- The text of a string is missing where half a surrogate pair stands in it. -/
def takeString (cs : List Char) : Option (Option String × List Char) :=
  (takePieces cs).map fun (pieces, rest) => ((joinPieces pieces).map String.ofList, rest)

def sourceOf (cs rest : List Char) : List Char := cs.take (cs.length - rest.length)

/-- An object all of whose keys are text. -/
def ofMembers (source : List Char) (members : List (Option String × Json)) : Json :=
  match members.mapM fun (key, value) => key.map fun key => (key, value) with
  | some members => .object members
  | none => .foreign source false

mutual

/-- Reads a value at the start of the text; the first argument bounds the number of calls. -/
def takeValue : Nat → List Char → Option (Json × List Char)
  | 0, _ => none
  | fuel + 1, cs =>
    match cs with
    | 'n' :: 'u' :: 'l' :: 'l' :: rest => some (.null, rest)
    | 't' :: 'r' :: 'u' :: 'e' :: rest => some (.bool true, rest)
    | 'f' :: 'a' :: 'l' :: 's' :: 'e' :: rest => some (.bool false, rest)
    | '"' :: rest => do
      let (text, rest) ← takeString rest
      match text with
      | some s => return (.string s, rest)
      | none => return (.foreign (sourceOf cs rest) false, rest)
    | '[' :: rest =>
      match skipSpace rest with
      | ']' :: rest => some (.array [], rest)
      | rest => do
        let (elements, rest) ← takeElements fuel rest
        return (.array elements, rest)
    | '{' :: rest =>
      match skipSpace rest with
      | '}' :: rest => some (.object [], rest)
      | start => do
        let (members, rest) ← takeMembers fuel start
        return (ofMembers (sourceOf cs rest) members, rest)
    | _ => takeNumber cs

def takeElements : Nat → List Char → Option (List Json × List Char)
  | 0, _ => none
  | fuel + 1, cs => do
    let (v, rest) ← takeValue fuel cs
    match skipSpace rest with
    | ',' :: rest =>
      let (vs, rest) ← takeElements fuel (skipSpace rest)
      return (v :: vs, rest)
    | ']' :: rest => return ([v], rest)
    | _ => none

def takeMembers : Nat → List Char → Option (List (Option String × Json) × List Char)
  | 0, _ => none
  | fuel + 1, cs =>
    match cs with
    | '"' :: rest => do
      let (key, rest) ← takeString rest
      match skipSpace rest with
      | ':' :: rest =>
        let (v, rest) ← takeValue fuel (skipSpace rest)
        match skipSpace rest with
        | ',' :: rest =>
          let (members, rest) ← takeMembers fuel (skipSpace rest)
          return ((key, v) :: members, rest)
        | '}' :: rest => return ([(key, v)], rest)
        | _ => none
      | _ => none
    | _ => none

end

def parseChars? (cs : List Char) : Option Json :=
  match takeValue (2 * cs.length + 2) (skipSpace cs) with
  | some (v, rest) => if skipSpace rest = [] then some v else none
  | none => none

def parse? (s : String) : Option Json := parseChars? s.toList

end StoryEngine.Json
