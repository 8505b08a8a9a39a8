import StoryEngine.World.Direction

/-! # Tiles

The x axis grows to the east and the y axis to the south. Coordinates are 32-bit numbers, and a step
beyond the last one stays where it is.
-/

namespace StoryEngine

set_option autoImplicit false

structure Position where
  x : Int
  y : Int
deriving DecidableEq, Inhabited

namespace Position

def least : Int := -0x80000000
def greatest : Int := 0x7FFFFFFF

def saturate (n : Int) : Int := max least (min greatest n)

def step (p : Position) : Direction → Position
  | .north => ⟨p.x, saturate (p.y - 1)⟩
  | .east => ⟨saturate (p.x + 1), p.y⟩
  | .south => ⟨p.x, saturate (p.y + 1)⟩
  | .west => ⟨saturate (p.x - 1), p.y⟩

/-- Where a path leads, tile by tile. -/
def walk (p : Position) (path : List Direction) : Position := path.foldl step p

/-- The direction in which `q` lies as seen from `p`, along the longer axis; of two equal axes the
vertical one counts. -/
def directionTo (p q : Position) : Option Direction :=
  let dx := q.x - p.x
  let dy := q.y - p.y
  if dx = 0 ∧ dy = 0 then none
  else if dx.natAbs ≤ dy.natAbs then some (if dy < 0 then .north else .south)
  else some (if dx < 0 then .west else .east)

def render (p : Position) : String := s!"({p.x}, {p.y})"

theorem saturate_of_mem (n : Int) (hl : least ≤ n) (hg : n ≤ greatest) : saturate n = n := by
  unfold saturate
  omega

end Position

end StoryEngine
