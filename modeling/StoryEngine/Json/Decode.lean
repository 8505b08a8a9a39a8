import StoryEngine.Collection.StringSet
import StoryEngine.Json.Reader

/-! # Reading records from JSON

A record is an object, or an array of its fields in order. A field that comes twice is refused,
members with other names are passed over, and an array may leave out fields from the end.
-/

namespace StoryEngine.Json

set_option autoImplicit false

variable {α : Type}

def text? : Json → Option String
  | string s => some s
  | _ => none

def bool? : Json → Option Bool
  | bool b => some b
  | _ => none

def natBelow? (bound : Nat) : Json → Option Nat
  | number n => if 0 ≤ n ∧ n < Int.ofNat bound then some n.toNat else none
  | _ => none

def list? (element : Json → Option α) : Json → Option (List α)
  | array vs => vs.mapM element
  | _ => none

/-- A map; of several values for one key the last one counts, but each has to read. -/
def map? (value : Json → Option α) : Json → Option (StringMap α)
  | object members =>
    (members.mapM fun m => (value m.2).map fun v => (m.1, v)).map StringMap.ofList
  | _ => none

def set? (v : Json) : Option StringSet := (list? text? v).map StringSet.ofKeys

def optional? (value : Json → Option α) : Json → Option (Option α)
  | null => some none
  | v => (value v).map some

/-- A choice among names, written as its name or as an object with the name as its only key. -/
def choice? (ofName? : String → Option α) : Json → Option α
  | string s => ofName? s
  | object [(name, null)] => ofName? name
  | _ => none

/-- The member of a name, if there is one; two of them are refused. -/
def member? (members : List (String × Json)) (name : String) : Option (Option Json) :=
  match members.filter (·.1 == name) with
  | [] => some none
  | [(_, v)] => some (some v)
  | _ => none

/-- The fields of a record in order, each present or not. -/
def record? (names : List String) : Json → Option (List (Option Json))
  | object members => names.mapM (member? members)
  | array vs =>
    if vs.length ≤ names.length then
      some (vs.map some ++ List.replicate (names.length - vs.length) none)
    else none
  | _ => none

def required (value : Json → Option α) (field : Option Json) : Option α := field.bind value

def withDefault (value : Json → Option α) (absent : α) : Option Json → Option α
  | some v => value v
  | none => some absent

end StoryEngine.Json
