import StoryEngine.Script.Action

/-! # Reading actions

The action half of a line is `verb=value` or bare text. A key that holds blanks is no verb, so such
a line is text too.
-/

namespace StoryEngine

set_option autoImplicit false

open Text (trim asciiLower sameName splitFirst occursIn)
open Text.Numeral (natBelow? intWithin? count32 count64 coordinate signed64)
open Script (fields splitList keyValue? fieldMark listMark)

namespace ActionField

def name (label value : String) : Except ValueFault String :=
  if trim value = "" then .error (.missing label) else .ok (trim value)

def count (bound : Nat) (label value : String) : Except ValueFault Nat :=
  match natBelow? bound (trim value) with
  | some n => .ok n
  | none => .error (.invalid label (trim value))

def number (bound : Nat) (label value : String) : Except ValueFault Int :=
  match intWithin? bound (trim value) with
  | some n => .ok n
  | none => .error (.invalid label (trim value))

def direction (value : String) : Except ValueFault Direction :=
  match Direction.parse? value with
  | some d => .ok d
  | none => .error (.invalid "direction" value)

def path (value : String) : Except ValueFault (List Direction) :=
  (WalkPath.parse value).mapError .walk

def position (x y : String) : Except ValueFault Position := do
  let x ← number coordinate "x" x
  let y ← number coordinate "y" y
  return ⟨x, y⟩

def questPart (value : String) : Except ValueFault (String × String) :=
  match fields value with
  | [quest, part] => do
    let quest ← name "quest" quest
    let part ← name "quest part" part
    return (quest, part)
  | _ => .error (.shape "quest__part")

def itemCount (value : String) : Except ValueFault (String × Nat) :=
  match fields value with
  | item :: given :: _ => do
    let item ← name "item" item
    let n ← count count32 "count" given
    return (item, n)
  | [item] => do
    let item ← name "item" item
    return (item, 1)
  | [] => .error (.missing "item")

def tileRun (value : String) : Except ValueFault TileRun :=
  match fields value with
  | [kind, x, y] => do
    let kind ← name "kind" kind
    let origin ← position x y
    return ⟨kind, origin, none⟩
  | [kind, x, y, along, times] => do
    let along ← direction along
    let times ← count count32 "count" times
    let kind ← name "kind" kind
    let origin ← position x y
    return ⟨kind, origin, some (along, times)⟩
  | _ => .error (.shape "kind__x__y[__dir__count]")

/-- `now`, a change with a sign in front, or a value. -/
def argUpdate (raw : String) : Except ValueFault ArgUpdate :=
  let raw := trim raw
  if sameName raw "now" then .ok .now
  else
    match raw.toList with
    | '+' :: amount => (number signed64 "delta" (.ofList amount)).map .delta
    | '-' :: _ => (number signed64 "delta" raw).map .delta
    | _ => .ok (.set (.parse raw))

def question (value : String) : Except ValueFault Action :=
  match splitFirst fieldMark value with
  | some (skip, rest) => (count count64 "skip" skip).map (.question (.parse rest))
  | none => .error (.shape "skip__text")

def walk (value : String) : Except ValueFault Action :=
  match fields value with
  | [steps] => (path steps).map (.walk .master)
  | [actor, steps] => (path steps).map (.walk (.parse actor))
  | _ => .error (.shape "[actor__]path")

def warp (value : String) : Except ValueFault Action :=
  match fields value with
  | [actor, target] => (name "target" target).map fun target => .warp (.parse actor) (.named target)
  | _ => .error (.shape "actor__target")

def destroy (value : String) : Except ValueFault Action :=
  if occursIn fieldMark value then (tileRun value).map fun run => .destroy (.tiles run)
  else (name "target" value).map fun target => .destroy (.named target)

def teleport (value : String) : Except ValueFault Action :=
  match fields value with
  | [map, x, y] => do
    let map ← name "map" map
    let target ← position x y
    return .teleport map target
  | _ => .error (.shape "map__x__y")

def setArg (value : String) : Except ValueFault Action :=
  match fields value with
  | [actor, key, raw] => do
    let key ← name "key" key
    let update ← argUpdate raw
    return .setArg (.parse actor) key update
  | _ => .error (.shape "actor__key__value")

def face (value : String) : Except ValueFault Action :=
  match fields value with
  | [facing] => (direction facing).map (.face .master)
  | [actor, facing] => (direction facing).map (.face (.parse actor))
  | _ => .error (.shape "[actor__]direction")

end ActionField

namespace Action

open ActionField

def build (value : String) : Verb → Except ValueFault Action
  | .setFlag => (name "flag" value).map setFlag
  | .clearFlag | .removeFlag => (name "flag" value).map clearFlag
  | .resetFlags => (name "prefix" value).map resetFlags
  | .giveGold => (count count64 "gold" value).map giveGold
  | .takeGold => (count count64 "gold" value).map takeGold
  | .giveItem => (itemCount value).map fun (item, n) => giveItem item n
  | .takeItem => (itemCount value).map fun (item, n) => takeItem item n
  | .jump => (count count64 "offset" value).map jump
  | .unjump => (count count64 "offset" value).map unjump
  | .startEvent => (name "script id" value).map startEvent
  | .endEvent => (name "script id" value).map endEvent
  | .forceEnd => .ok forceEnd
  | .text => .ok (text (.parse value) true)
  | .textNoWait => .ok (text (.parse value) false)
  | .question => ActionField.question value
  | .walk => ActionField.walk value
  | .warp => ActionField.warp value
  | .spawn => (tileRun value).map spawn
  | .destroy => ActionField.destroy value
  | .standIn => .ok (standIn (.parse value))
  | .standInEnd => .ok (standInEnd (.parse value))
  | .teleport => ActionField.teleport value
  | .forceCombat => (name "encounter" value).map forceCombat
  | .setArg => ActionField.setArg value
  | .wait => (count count64 "milliseconds" value).map wait
  | .startQuest => (name "quest" value).map startQuest
  | .completeQuest => (name "quest" value).map (finishQuest · .completed)
  | .failQuest => (name "quest" value).map (finishQuest · .failed)
  | .startStep => (questPart value).map fun (quest, step) => startStep quest step
  | .completeStep => (questPart value).map fun (quest, step) => finishStep quest step .completed
  | .failStep => (questPart value).map fun (quest, step) => finishStep quest step .failed
  | .revealHint => (questPart value).map fun (quest, hint) => revealHint quest hint
  | .joinParty => (name "name" value).map joinParty
  | .leaveParty => (name "name" value).map leaveParty
  | .face => ActionField.face value

def ofVerb (verb : Verb) (value : String) : Action :=
  match build value verb with
  | .ok action => action
  | .error fault => malformed verb value fault

/-- The verb and the value of a line that is neither blank nor `force_end` alone. -/
def verbAndValue (raw : String) : String × String :=
  match keyValue? raw with
  | some (key, value) =>
    if key.toList.any Text.isBlank then (Verb.text.name, raw) else (asciiLower key, value)
  | none => (Verb.text.name, raw)

def ofVerbName (verb value : String) : List Action :=
  match Verb.ofName? verb with
  | some known =>
    if known.takesList then (splitList listMark value).map (ofVerb known)
    else [ofVerb known value]
  | none => [unknown verb value]

def parseList (raw : String) : List Action :=
  let raw := trim raw
  if raw = "" then []
  else if sameName raw Verb.forceEnd.name then [forceEnd]
  else ofVerbName (verbAndValue raw).1 (verbAndValue raw).2

end Action

end StoryEngine
