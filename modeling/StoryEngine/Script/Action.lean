import StoryEngine.Quest.Progress
import StoryEngine.Script.Fields
import StoryEngine.Script.Verb
import StoryEngine.Script.WalkPath
import StoryEngine.World.Actor

/-! # Actions

An action is a verb with the value it was given. A verb outside the vocabulary and a value that its
verb cannot use are kept as actions too; they do nothing when their turn comes.
-/

namespace StoryEngine

set_option autoImplicit false

open Text (trim sameName splitFirst)
open Text.Numeral (natBelow? intWithin?)

inductive ActorRef where
  | master
  | named (name : String)
deriving DecidableEq

def ActorRef.parse (raw : String) : ActorRef :=
  let raw := trim raw
  if raw = "" ∨ sameName raw "self" ∨ sameName raw "master" then .master else .named raw

structure TextLine where
  speaker : Option String
  text : String
deriving DecidableEq

/-- `speaker__text`; without a speaker the value is all text. -/
def TextLine.parse (value : String) : TextLine :=
  match splitFirst Script.fieldMark value with
  | some (speaker, text) =>
    if trim speaker = "" then ⟨none, trim value⟩ else ⟨some (trim speaker), trim text⟩
  | none => ⟨none, trim value⟩

inductive ArgUpdate where
  | set (value : ArgValue)
  | delta (amount : Int)
  | now
deriving DecidableEq

/-- Tiles in a row, all holding one kind of actor. -/
structure TileRun where
  kind : String
  origin : Position
  along : Option (Direction × Nat)
deriving DecidableEq

/-- The first `n` tiles in a direction, beginning with the given one. -/
def tilesFrom (direction : Direction) : Nat → Position → List Position
  | 0, _ => []
  | n + 1, p => p :: tilesFrom direction n (p.step direction)

namespace TileRun

/-- A run has at least its first tile. -/
def count (run : TileRun) : Nat :=
  match run.along with
  | some (_, n) => max n 1
  | none => 1

/-- A run of one tile needs no direction, and north does for it. -/
def direction (run : TileRun) : Direction :=
  match run.along with
  | some (d, _) => d
  | none => .north

def tiles (run : TileRun) : List Position := tilesFrom run.direction run.count run.origin

end TileRun

inductive DestroyTarget where
  | named (name : String)
  | tiles (run : TileRun)
deriving DecidableEq

/-- Why a value does not suit its verb. -/
inductive ValueFault where
  | missing (label : String)
  | invalid (label value : String)
  | shape (expected : String)
  | walk (fault : WalkFault)
deriving DecidableEq

def ValueFault.message : ValueFault → String
  | missing label => s!"missing {label}"
  | invalid label value => s!"invalid {label} '{value}'"
  | shape expected => s!"expected {expected}"
  | walk fault => fault.message

inductive Action where
  | setFlag (flag : String)
  | clearFlag (flag : String)
  | resetFlags (start : String)
  | giveGold (amount : Nat)
  | takeGold (amount : Nat)
  | giveItem (item : String) (count : Nat)
  | takeItem (item : String) (count : Nat)
  | jump (lines : Nat)
  | unjump (lines : Nat)
  | startEvent (script : String)
  | endEvent (script : String)
  | forceEnd
  | text (line : TextLine) (awaitInput : Bool)
  | question (line : TextLine) (skipOnNo : Nat)
  | walk (actor : ActorRef) (path : List Direction)
  | warp (actor target : ActorRef)
  | spawn (run : TileRun)
  | destroy (target : DestroyTarget)
  | standIn (actor : ActorRef)
  | standInEnd (actor : ActorRef)
  | teleport (map : String) (position : Position)
  | forceCombat (encounter : String)
  | setArg (actor : ActorRef) (key : String) (update : ArgUpdate)
  | wait (millis : Nat)
  | startQuest (quest : String)
  | finishQuest (quest : String) (outcome : Outcome)
  | startStep (quest step : String)
  | finishStep (quest step : String) (outcome : Outcome)
  | revealHint (quest hint : String)
  | joinParty (name : String)
  | leaveParty (name : String)
  | face (actor : ActorRef) (direction : Direction)
  | unknown (verb value : String)
  | malformed (verb : Verb) (value : String) (fault : ValueFault)
deriving DecidableEq

namespace Action

def verbName : Action → String
  | setFlag _ => Verb.setFlag.name
  | clearFlag _ => Verb.clearFlag.name
  | resetFlags _ => Verb.resetFlags.name
  | giveGold _ => Verb.giveGold.name
  | takeGold _ => Verb.takeGold.name
  | giveItem _ _ => Verb.giveItem.name
  | takeItem _ _ => Verb.takeItem.name
  | jump _ => Verb.jump.name
  | unjump _ => Verb.unjump.name
  | startEvent _ => Verb.startEvent.name
  | endEvent _ => Verb.endEvent.name
  | forceEnd => Verb.forceEnd.name
  | text _ true => Verb.text.name
  | text _ false => Verb.textNoWait.name
  | question _ _ => Verb.question.name
  | walk _ _ => Verb.walk.name
  | warp _ _ => Verb.warp.name
  | spawn _ => Verb.spawn.name
  | destroy _ => Verb.destroy.name
  | standIn _ => Verb.standIn.name
  | standInEnd _ => Verb.standInEnd.name
  | teleport _ _ => Verb.teleport.name
  | forceCombat _ => Verb.forceCombat.name
  | setArg _ _ _ => Verb.setArg.name
  | wait _ => Verb.wait.name
  | startQuest _ => Verb.startQuest.name
  | finishQuest _ .completed => Verb.completeQuest.name
  | finishQuest _ .failed => Verb.failQuest.name
  | startStep _ _ => Verb.startStep.name
  | finishStep _ _ .completed => Verb.completeStep.name
  | finishStep _ _ .failed => Verb.failStep.name
  | revealHint _ _ => Verb.revealHint.name
  | joinParty _ => Verb.joinParty.name
  | leaveParty _ => Verb.leaveParty.name
  | face _ _ => Verb.face.name
  | unknown verb _ => verb
  | malformed verb _ _ => verb.name

def isDegraded : Action → Bool
  | unknown _ _ | malformed _ _ _ => true
  | _ => false

end Action

end StoryEngine
