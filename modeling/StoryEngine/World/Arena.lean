import StoryEngine.World.Actor

/-! # The actor arena

Actors live in numbered slots. A handle names a slot and the generation it was given out for; the
generation of a slot moves on when its actor leaves, so that an old handle finds nothing. The slot
freed last is filled first.
-/

namespace StoryEngine

set_option autoImplicit false

structure Handle where
  index : Nat
  generation : Nat
deriving DecidableEq, Inhabited

structure Slot where
  generation : Nat
  actor : Option Actor
deriving DecidableEq, Inhabited

structure Arena where
  slots : Array Slot
  free : List Nat
deriving DecidableEq, Inhabited

namespace Arena

/-- Generations count in 32 bits. -/
def nextGeneration (generation : Nat) : Nat := (generation + 1) % 0x100000000

def empty : Arena := ⟨#[], []⟩

instance : EmptyCollection Arena := ⟨empty⟩

def get? (arena : Arena) (h : Handle) : Option Actor :=
  arena.slots[h.index]?.bind fun slot =>
    if slot.generation = h.generation then slot.actor else none

def contains (arena : Arena) (h : Handle) : Bool := (arena.get? h).isSome

def spawn (arena : Arena) (actor : Actor) : Handle × Arena :=
  match arena.free with
  | index :: free =>
    match arena.slots[index]? with
    | some slot =>
      (⟨index, slot.generation⟩,
        ⟨arena.slots.setIfInBounds index ⟨slot.generation, some actor⟩, free⟩)
    | none => (⟨index, 0⟩, ⟨arena.slots, free⟩)
  | [] => (⟨arena.slots.size, 0⟩, ⟨arena.slots.push ⟨0, some actor⟩, []⟩)

/-- A handle that finds no actor leaves the arena as it is. -/
def despawn (arena : Arena) (h : Handle) : Arena :=
  if arena.contains h then
    ⟨arena.slots.setIfInBounds h.index ⟨nextGeneration h.generation, none⟩,
      h.index :: arena.free⟩
  else arena

def modify (arena : Arena) (h : Handle) (change : Actor → Actor) : Arena :=
  match arena.get? h with
  | some actor =>
    { arena with slots := arena.slots.setIfInBounds h.index ⟨h.generation, some (change actor)⟩ }
  | none => arena

/-- The living actors in slot order. -/
def toList (arena : Arena) : List (Handle × Actor) :=
  arena.slots.toList.zipIdx.filterMap fun (slot, index) =>
    slot.actor.map fun actor => (⟨index, slot.generation⟩, actor)

def handlesWhere (arena : Arena) (test : Actor → Bool) : List Handle :=
  (arena.toList.filter fun (_, actor) => test actor).map (·.1)

def findByName? (arena : Arena) (name : String) : Option Handle :=
  (arena.toList.find? fun (_, actor) => Text.sameName actor.name name).map (·.1)

def ofKind (arena : Arena) (kind : String) : List Handle :=
  arena.handlesWhere fun actor => Text.sameName actor.kind kind

def standingAt (arena : Arena) (p : Position) : List Handle :=
  arena.handlesWhere fun actor => actor.position == p

def size (arena : Arena) : Nat := arena.toList.length

def isEmpty (arena : Arena) : Bool := arena.size == 0

end Arena

end StoryEngine
