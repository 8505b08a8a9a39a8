import StoryEngine.Quest.Log
import StoryEngine.Text.Split
import StoryEngine.Time.TurnLog
import StoryEngine.World.Arena
import StoryEngine.World.GridMap

/-! # The world

Everything that conditions read and actions change.
-/

namespace StoryEngine

set_option autoImplicit false

structure EquippedItem where
  id : String
  family : String
deriving DecidableEq

structure World where
  flags : StringSet
  talkedTo : StringSet
  quests : QuestLog
  gold : Nat
  inventory : StringMap Nat
  equipment : List EquippedItem
  party : List String
  lastKeyword : Option String
  fluency : Nat
  actors : Arena
  player : Option Handle
  turns : TurnLog
deriving DecidableEq

namespace World

def blank (catalog : QuestCatalog) : World :=
  ⟨∅, ∅, .blank catalog, 0, ∅, [], [], none, 0, ∅, none, .blank⟩

def hasFlag (w : World) (flag : String) : Bool := w.flags.has flag

def setFlag (w : World) (flag : String) : World := { w with flags := w.flags.add flag }

def clearFlag (w : World) (flag : String) : World := { w with flags := w.flags.erase flag }

/-- Clears every flag that begins with `start`. -/
def resetFlags (w : World) (start : String) : World :=
  { w with flags := w.flags.filter fun flag _ => !start.toList.isPrefixOf flag.toList }

def maxGold : Nat := 0xFFFFFFFFFFFFFFFF
def maxItems : Nat := 0xFFFFFFFF

def giveGold (w : World) (amount : Nat) : World := { w with gold := min (w.gold + amount) maxGold }

def takeGold (w : World) (amount : Nat) : World := { w with gold := w.gold - amount }

def itemCount (w : World) (item : String) : Nat := (w.inventory.get? item).getD 0

/-- An item counts as held when it is carried or equipped. -/
def hasItem (w : World) (item : String) : Bool :=
  0 < w.itemCount item || w.equipment.any (·.id == item)

def giveItem (w : World) (item : String) (count : Nat) : World :=
  { w with inventory := w.inventory.insert item (min (w.itemCount item + count) maxItems) }

/-- Takes as many as are there, up to `count`; the last one takes the entry with it. -/
def takeItem (w : World) (item : String) (count : Nat) : World :=
  if w.inventory.contains item then
    if w.itemCount item ≤ count then { w with inventory := w.inventory.erase item }
    else { w with inventory := w.inventory.insert item (w.itemCount item - count) }
  else w

def equippedFamily (w : World) (family : String) : Bool :=
  w.equipment.any fun item => Text.sameName item.family family

def partyContains (w : World) (name : String) : Bool := w.party.any fun m => Text.sameName m name

def joinParty (w : World) (name : String) : World :=
  if w.partyContains name then w else { w with party := w.party ++ [name] }

def leaveParty (w : World) (name : String) : World :=
  { w with party := w.party.filter fun m => !Text.sameName m name }

def playerName : String := "player"

def actor? (w : World) (h : Handle) : Option Actor := w.actors.get? h

def modifyActor (w : World) (h : Handle) (change : Actor → Actor) : World :=
  { w with actors := w.actors.modify h change }

def spawn (w : World) (actor : Actor) : Handle × World :=
  let (h, actors) := w.actors.spawn actor
  (h, { w with actors })

def spawnPlayer (w : World) (actor : Actor) : Handle × World :=
  let (h, w) := w.spawn actor
  (h, { w with player := some h })

def despawn (w : World) (h : Handle) : World := { w with actors := w.actors.despawn h }

/-- The name `player` stands for the player whatever the player's actor is called. -/
def findActor? (w : World) (name : String) : Option Handle :=
  if Text.sameName name playerName then w.player.filter w.actors.contains
  else w.actors.findByName? name

end World

end StoryEngine
