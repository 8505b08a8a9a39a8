import Mathlib.Data.List.Nodup
import StoryEngine.Script.Action
import StoryEngine.World.GridMap

/-! # Tiles in a row

A map is no wider and no higher than the greatest coordinate, so that the last coordinate lies off
every map. A step that ends on the map is therefore one tile long, and a run of tiles that stays on
the map holds as many different tiles as it counts.
-/

namespace StoryEngine

set_option autoImplicit false

namespace Position

/-- The tile so many tiles away, as if coordinates had no bounds. -/
def ahead (p : Position) (direction : Direction) (n : Nat) : Position :=
  match direction with
  | .north => ⟨p.x, p.y - n⟩
  | .east => ⟨p.x + n, p.y⟩
  | .south => ⟨p.x, p.y + n⟩
  | .west => ⟨p.x - n, p.y⟩

theorem ahead_zero (p : Position) (direction : Direction) : p.ahead direction 0 = p := by
  cases direction <;> simp [ahead]

theorem ahead_ahead (p : Position) (direction : Direction) (m n : Nat) :
    (p.ahead direction m).ahead direction n = p.ahead direction (m + n) := by
  cases direction <;> simp only [ahead, mk.injEq, true_and, and_true] <;> omega

theorem ahead_inj {p : Position} {direction : Direction} {m n : Nat} :
    p.ahead direction m = p.ahead direction n ↔ m = n := by
  cases direction <;> simp only [ahead, mk.injEq, true_and, and_true] <;> omega

end Position

namespace GridMap

/-- Width and height are coordinates themselves. -/
structure Fits (map : GridMap) : Prop where
  width : map.width ≤ Position.greatest
  height : map.height ≤ Position.greatest

variable {map : GridMap} {p : Position} {direction : Direction} {n : Nat}

/-- A step that stops at the last coordinate does not end on the map. -/
theorem Fits.step_eq (hmap : map.Fits) (hin : map.inBounds (p.step direction) = true) :
    p.step direction = p.ahead direction 1 := by
  obtain ⟨hwidth, hheight⟩ := hmap
  rw [inBounds_iff] at hin
  cases direction <;>
    simp only [Position.step, Position.ahead, Position.saturate, Position.least,
      Position.greatest, Position.mk.injEq, true_and, and_true] at hin hwidth hheight ⊢ <;>
    omega

theorem Fits.tilesFrom_eq (hmap : map.Fits)
    (hin : ∀ q ∈ tilesFrom direction n p, map.inBounds q = true) :
    tilesFrom direction n p = (List.range n).map (p.ahead direction) := by
  induction n generalizing p with
  | zero => rfl
  | succ n ih =>
    have hrest : ∀ q ∈ tilesFrom direction n (p.step direction), map.inBounds q = true :=
      fun q hq => hin q (List.mem_cons_of_mem p hq)
    rw [tilesFrom, ih hrest, List.range_succ_eq_map, List.map_cons, List.map_map,
      Position.ahead_zero]
    cases n with
    | zero => rfl
    | succ n =>
      rw [hmap.step_eq (hrest _ List.mem_cons_self)]
      refine congrArg (p :: ·) (List.map_congr_left fun i _ => ?_)
      rw [Position.ahead_ahead, Nat.add_comm]
      rfl

theorem Fits.nodup_tilesFrom (hmap : map.Fits)
    (hin : ∀ q ∈ tilesFrom direction n p, map.inBounds q = true) :
    (tilesFrom direction n p).Nodup := by
  rw [hmap.tilesFrom_eq hin]
  exact List.nodup_range.map fun _ _ => Position.ahead_inj.mp

end GridMap

end StoryEngine
