import StoryEngine.World.Position

/-! # Rectangular maps with blocked tiles -/

namespace StoryEngine

set_option autoImplicit false

structure GridMap where
  name : String
  width : Int
  height : Int
  blocked : List Position
deriving DecidableEq, Inhabited

namespace GridMap

def blank (name : String) (width height : Int) : GridMap :=
  ⟨name, max width 0, max height 0, []⟩

def block (m : GridMap) (p : Position) : GridMap :=
  { m with blocked := p :: m.blocked.erase p }

def unblock (m : GridMap) (p : Position) : GridMap :=
  { m with blocked := m.blocked.filter (· != p) }

def inBounds (m : GridMap) (p : Position) : Bool :=
  0 ≤ p.x && 0 ≤ p.y && p.x < m.width && p.y < m.height

def isPassable (m : GridMap) (p : Position) : Bool :=
  m.inBounds p && !m.blocked.contains p

theorem inBounds_iff (m : GridMap) (p : Position) :
    m.inBounds p = true ↔ (0 ≤ p.x ∧ p.x < m.width) ∧ (0 ≤ p.y ∧ p.y < m.height) := by
  simp only [inBounds, Bool.and_eq_true, decide_eq_true_eq]
  omega

theorem inBounds_of_isPassable (m : GridMap) (p : Position) (h : m.isPassable p = true) :
    m.inBounds p = true := by
  simp only [isPassable, Bool.and_eq_true] at h
  exact h.1

end GridMap

end StoryEngine
