import StoryEngine.Collection.StringMap
import StoryEngine.Text.Numeral
import StoryEngine.Yaml.Node

/-! # Reading records from YAML

Any scalar is text, whatever it looks like. An absent value is also an empty mapping, and where a
value is optional, it is none, as are a plain tilde and a plain null.
-/

namespace StoryEngine.Yaml

set_option autoImplicit false

variable {α : Type}

def text? : Yaml → Option String
  | scalar text _ => some text
  | _ => none

def nullWords : List String := ["", "~", "null", "Null", "NULL"]

def optional? (value : Yaml → Option α) : Yaml → Option (Option α)
  | scalar text true =>
    if nullWords.contains text then some none else (value (scalar text true)).map some
  | v => (value v).map some

/-- Digits of a base in either case. -/
def digitValue? (base : Nat) (c : Char) : Option Nat :=
  (hexValue? c).filter (· < base)

def ofDigits? (base : Nat) (digits : List Char) : Option Nat :=
  if digits = [] then none
  else (digits.mapM (digitValue? base)).map fun ds => ds.foldl (fun n d => n * base + d) 0

/-- A count, in one of four bases. A decimal one has no zeros in front. -/
def readCount? : List Char → Option Nat
  | '0' :: 'x' :: digits => ofDigits? 16 digits
  | '0' :: 'o' :: digits => ofDigits? 8 digits
  | '0' :: 'b' :: digits => ofDigits? 2 digits
  | '0' :: _ :: _ => none
  | digits => ofDigits? 10 digits

/-- A plain scalar that is a count below the bound. -/
def natBelow? (bound : Nat) : Yaml → Option Nat
  | scalar text true =>
    let digits := match text.toList with
      | '+' :: rest => rest
      | all => all
    (readCount? digits).filter (· < bound)
  | _ => none

def entries? : Yaml → Option (List (Yaml × Yaml))
  | mapping entries => some entries
  | scalar "" true => some []
  | _ => none

/-- A map; of several values for one key the last one counts, but each has to read. -/
def map? (value : Yaml → Option α) (v : Yaml) : Option (StringMap α) := do
  let entries ← entries? v
  let read ← entries.mapM fun e => do
    let key ← text? e.1
    let found ← value e.2
    return (key, found)
  return StringMap.ofList read

/-- The value of a field, if there is one; two of them are refused. -/
def field? (entries : List (String × Yaml)) (name : String) : Option (Option Yaml) :=
  match entries.filter (·.1 == name) with
  | [] => some none
  | [(_, v)] => some (some v)
  | _ => none

/-- The fields of a record in order, each present or not, and the names of its other entries. -/
def record? (names : List String) (v : Yaml) : Option (List (Option Yaml) × List String) := do
  let entries ← entries? v
  let named ← entries.mapM fun e => (text? e.1).map fun key => (key, e.2)
  let fields ← names.mapM (field? named)
  return (fields, (named.map (·.1)).filter fun name => !names.contains name)

def required (value : Yaml → Option α) (field : Option Yaml) : Option α := field.bind value

def withDefault (value : Yaml → Option α) (absent : α) : Option Yaml → Option α
  | some v => value v
  | none => some absent

end StoryEngine.Yaml
