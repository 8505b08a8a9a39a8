import StoryEngine.Script.Fields
import StoryEngine.Text.Numeral
import StoryEngine.World.State

/-! # Conditions

A condition is a test, or its negation with `!` in front. A token that is no test of the vocabulary
tests the flag of that name.
-/

namespace StoryEngine

set_option autoImplicit false

open Text (trim asciiLower sameName)
open Text.Numeral (natBelow? count64)
open Script (fields splitList keyValue? listMark)

inductive QuestCheck where
  | started
  | inProgress
  | finished
  | completed
  | failed
deriving DecidableEq

namespace QuestCheck

def name : QuestCheck → String
  | started => "started"
  | inProgress => "in_progress"
  | finished => "finished"
  | completed => "completed"
  | failed => "failed"

def all : List QuestCheck := [started, inProgress, finished, completed, failed]

def test : QuestCheck → Progress → Bool
  | started, p => p.started
  | inProgress, p => p.inProgress
  | finished, p => p.finished
  | completed, p => p.completed
  | failed, p => p.failed

end QuestCheck

inductive Predicate where
  | flag (name : String)
  | lastInput (keyword : String)
  | talkedTo (npc : String)
  | haveItem (item : String)
  | quest (quest : String) (check : QuestCheck)
  | step (quest step : String) (check : QuestCheck)
  | hintRevealed (quest hint : String)
  | equipped (families : List String)
  | direction (d : Direction)
  | partyHas (name : String)
  | partySize (size : Nat)
  | goldAtLeast (amount : Nat)
deriving DecidableEq

namespace Predicate

def pair? (value : String) : Option (String × String) :=
  match fields value with
  | [first, second] => if first = "" ∨ second = "" then none else some (first, second)
  | _ => none

/-- The check asked for by a key such as `quest_started`. -/
def checkNamed? (start key : String) : Option QuestCheck :=
  QuestCheck.all.find? fun check => start ++ check.name == key

def nothingEquipped : String := "none"

/-- Families are joined by `|`; `none` asks that nothing be equipped. -/
def parseEquipped (value : String) : Predicate :=
  if sameName value nothingEquipped then equipped [] else equipped (splitList "|" value)

def parseProgress? (key value : String) : Option Predicate :=
  match checkNamed? "quest_" key with
  | some check => some (quest value check)
  | none =>
    match checkNamed? "step_" key with
    | some check => (pair? value).map fun (q, s) => step q s check
    | none => none

/-- Reads a test by its key in lower case and a value that is not blank. -/
def parseKey? (key value : String) : Option Predicate :=
  match key with
  | "last_input" => some (lastInput (asciiLower value))
  | "talked_to" => some (talkedTo value)
  | "have_item" => some (haveItem value)
  | "party_has" => some (partyHas value)
  | "party_size" => (natBelow? count64 value).map partySize
  | "gold_at_least" => (natBelow? count64 value).map goldAtLeast
  | "direction" => (Direction.parse? value).map direction
  | "equipped" => some (parseEquipped value)
  | "hint_revealed" => (pair? value).map fun (q, h) => hintRevealed q h
  | _ => parseProgress? key value

def parse (body : String) : Predicate :=
  match keyValue? body with
  | some (key, value) =>
    if value = "" then flag body else (parseKey? (asciiLower key) value).getD (flag body)
  | none => flag body

def holds (p : Predicate) (w : World) (master : Option Handle) : Bool :=
  match p with
  | flag name => w.hasFlag name
  | lastInput keyword => w.lastKeyword.any fun last => sameName last keyword
  | talkedTo npc => w.talkedTo.keys.any fun name => sameName name npc
  | haveItem item => w.hasItem item
  | quest q check => check.test (w.quests.quest q)
  | step q s check => check.test (w.quests.step q s)
  | hintRevealed q h => w.quests.hintRevealed q h
  | equipped [] => w.equipment.isEmpty
  | equipped families => families.any w.equippedFamily
  | direction d =>
    match master.bind w.actor?, w.player.bind w.actor? with
    | some reference, some player => reference.position.directionTo player.position == some d
    | _, _ => false
  | partyHas name => w.partyContains name
  | partySize size => w.party.length == size
  | goldAtLeast amount => amount ≤ w.gold

end Predicate

structure Condition where
  negated : Bool
  predicate : Predicate
  raw : String
deriving DecidableEq

namespace Condition

/-- Whether a token is negated, and the rest of it. -/
def takeNegation (token : String) : Bool × String :=
  match token.toList with
  | '!' :: rest => (true, trim (.ofList rest))
  | _ => (false, token)

def parse? (raw : String) : Option Condition :=
  let token := trim raw
  let (negated, body) := takeNegation token
  if body = "" then none else some ⟨negated, .parse body, token⟩

def parseList (raw : String) : List Condition := (splitList listMark raw).filterMap parse?

def holds (c : Condition) (w : World) (master : Option Handle) : Bool :=
  c.predicate.holds w master != c.negated

def allHold (conditions : List Condition) (w : World) (master : Option Handle) : Bool :=
  conditions.all fun c => c.holds w master

end Condition

end StoryEngine
