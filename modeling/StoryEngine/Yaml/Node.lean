import StoryEngine.Yaml.Token

/-! # YAML nodes

A text is one document, and a document is one node. An absent node is an empty plain scalar.
-/

namespace StoryEngine

set_option autoImplicit false

inductive Yaml where
  | scalar (text : String) (plain : Bool)
  | sequence (items : List Yaml)
  | mapping (entries : List (Yaml × Yaml))

namespace Yaml

def absent : Yaml := .scalar "" true

/-- Tokens in front of which a node is absent. -/
def closes : List Token → Bool
  | [] => true
  | .key :: _ | .value :: _ | .blockEnd :: _ | .blockEntry :: _ | .flowEntry :: _
  | .flowSequenceEnd :: _ | .flowMappingEnd :: _ => true
  | _ => false

mutual

/-- Reads a node; the first argument bounds the number of calls. -/
def takeNode : Nat → List Token → Option (Yaml × List Token)
  | 0, _ => none
  | fuel + 1, ts =>
    match ts with
    | .scalar text plain :: rest => some (.scalar text plain, rest)
    | .sequenceStart :: rest => do
      let (items, rest) ← takeItems fuel rest
      match rest with
      | .blockEnd :: rest => return (.sequence items, rest)
      | _ => none
    | .mappingStart :: rest => do
      let (entries, rest) ← takeEntries fuel rest
      return (.mapping entries, rest)
    | .flowSequenceStart :: .flowSequenceEnd :: rest => some (.sequence [], rest)
    | .flowSequenceStart :: rest => do
      let (items, rest) ← takeFlowItems fuel rest
      return (.sequence items, rest)
    | .flowMappingStart :: .flowMappingEnd :: rest => some (.mapping [], rest)
    | .flowMappingStart :: rest => do
      let (entries, rest) ← takeFlowEntries fuel rest
      return (.mapping entries, rest)
    | _ => none

/-- Reads the items of a block sequence, each behind its dash. -/
def takeItems : Nat → List Token → Option (List Yaml × List Token)
  | 0, _ => none
  | fuel + 1, ts =>
    match ts with
    | .blockEntry :: rest => do
      let (item, rest) ← if closes rest then some (absent, rest) else takeNode fuel rest
      let (items, rest) ← takeItems fuel rest
      return (item :: items, rest)
    | rest => some ([], rest)

/-- Reads a key or a value of a block mapping; a sequence in it need not be indented. -/
def takePart : Nat → List Token → Option (Yaml × List Token)
  | 0, _ => none
  | fuel + 1, ts =>
    match ts with
    | .blockEntry :: _ => do
      let (items, rest) ← takeItems fuel ts
      return (.sequence items, rest)
    | rest => if closes rest then some (absent, rest) else takeNode fuel rest

def takeEntries : Nat → List Token → Option (List (Yaml × Yaml) × List Token)
  | 0, _ => none
  | fuel + 1, ts =>
    match ts with
    | .blockEnd :: rest => some ([], rest)
    | .key :: rest => do
      let (key, rest) ← takePart fuel rest
      let (value, rest) ← match rest with
        | .value :: rest => takePart fuel rest
        | rest => some (absent, rest)
      let (entries, rest) ← takeEntries fuel rest
      return ((key, value) :: entries, rest)
    | _ => none

/-- Reads the items of a flow sequence and its end; a single pair is a mapping of its own. -/
def takeFlowItems : Nat → List Token → Option (List Yaml × List Token)
  | 0, _ => none
  | fuel + 1, ts => do
    let (item, rest) ← match ts with
      | .key :: _ => do
        let (entry, rest) ← takeFlowEntry fuel ts
        some (Yaml.mapping [entry], rest)
      | _ => takeNode fuel ts
    match rest with
    | .flowSequenceEnd :: rest | .flowEntry :: .flowSequenceEnd :: rest => return ([item], rest)
    | .flowEntry :: rest =>
      let (items, rest) ← takeFlowItems fuel rest
      return (item :: items, rest)
    | _ => none

def takeFlowPart : Nat → List Token → Option (Yaml × List Token)
  | 0, _ => none
  | fuel + 1, ts => if closes ts then some (absent, ts) else takeNode fuel ts

/-- Reads an entry of a flow mapping; a node that was not marked as a key has an absent value. -/
def takeFlowEntry : Nat → List Token → Option ((Yaml × Yaml) × List Token)
  | 0, _ => none
  | fuel + 1, ts =>
    match ts with
    | .key :: rest => do
      let (key, rest) ← takeFlowPart fuel rest
      match rest with
      | .value :: rest =>
        let (value, rest) ← takeFlowPart fuel rest
        return ((key, value), rest)
      | rest => return ((key, absent), rest)
    | ts => (takeNode fuel ts).map fun (key, rest) => ((key, absent), rest)

def takeFlowEntries : Nat → List Token → Option (List (Yaml × Yaml) × List Token)
  | 0, _ => none
  | fuel + 1, ts => do
    let (entry, rest) ← takeFlowEntry fuel ts
    match rest with
    | .flowMappingEnd :: rest | .flowEntry :: .flowMappingEnd :: rest => return ([entry], rest)
    | .flowEntry :: rest =>
      let (entries, rest) ← takeFlowEntries fuel rest
      return (entry :: entries, rest)
    | _ => none

end

/-- Passes the marks at the end of a document. -/
def onlyEnds (ts : List Token) : Bool := ts.all (· == .documentEnd)

def ofTokens? (ts : List Token) : Option Yaml :=
  let content := match ts.dropWhile (· == .documentEnd) with
    | .documentStart :: rest => rest
    | rest => rest
  if onlyEnds content then some absent
  else
    match takeNode (2 * content.length + 2) content with
    | some (node, rest) => if onlyEnds rest then some node else none
    | none => none

def parse? (text : String) : Option Yaml := (tokens? text).bind ofTokens?

end Yaml

end StoryEngine
