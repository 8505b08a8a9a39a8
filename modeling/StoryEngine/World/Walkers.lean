import StoryEngine.Script.Error
import StoryEngine.World.State

/-! # Walking actors

A round moves every walking actor by one tile along its path, in slot order. A walker in front of
a blocked or occupied tile waits. A path that leads off the map stops the round; who moved before
that has moved.
-/

namespace StoryEngine

set_option autoImplicit false

namespace World

/-- Hidden actors occupy no tile. -/
def occupiedByOther (w : World) (h : Handle) (p : Position) : Bool :=
  w.actors.toList.any fun (other, actor) => other != h && !actor.hidden && actor.position == p

def stepAlong (next : Position) (direction : Direction) (actor : Actor) : Actor :=
  { actor with path := actor.path.tail, position := next, facing := direction }

/-- Moves one actor; the answer says whether it moved. -/
def stepWalker (map : GridMap) (w : World) (h : Handle) : World × Except ScriptError Bool :=
  match w.actor? h with
  | none => (w, .ok false)
  | some actor =>
    match actor.path with
    | [] => (w, .ok false)
    | direction :: _ =>
      let next := actor.position.step direction
      if !map.inBounds next then (w, .error (.outOfBounds actor.name next "" map.name))
      else if !map.isPassable next || w.occupiedByOther h next then (w, .ok false)
      else (w.modifyActor h (stepAlong next direction), .ok true)

/-- Moves the given actors in order until one would leave the map. -/
def stepEach (map : GridMap) (w : World) : List Handle → World × Except ScriptError Nat
  | [] => (w, .ok 0)
  | h :: rest =>
    match stepWalker map w h with
    | (w, .error e) => (w, .error e)
    | (w, .ok moved) =>
      let (w, result) := stepEach map w rest
      (w, result.map fun n => if moved then n + 1 else n)

/-- The number of actors that moved. -/
def stepWalkers (map : GridMap) (w : World) : World × Except ScriptError Nat :=
  stepEach map w (w.actors.handlesWhere Actor.isWalking)

end World

end StoryEngine
