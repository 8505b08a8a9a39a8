import Mathlib.Logic.Function.Iterate
import StoryEngine.Proofs.World.Tiles

/-! # Where another tile lies

A tile lies in the direction of the longer of the two ways along the axes, and of two equal ones the
vertical way counts, seen from either end. So looking back is looking the other way, and whoever
goes on to where a tile lies comes one step nearer each time and never meets the end of the
coordinates.
-/

namespace StoryEngine

set_option autoImplicit false

namespace Position

/-- Both coordinates are 32-bit numbers. -/
structure OnGrid (p : Position) : Prop where
  left : least ≤ p.x
  right : p.x ≤ greatest
  top : least ≤ p.y
  bottom : p.y ≤ greatest

/-- The differences of the coordinates are 32-bit numbers, and so are the sizes of these. -/
structure InSight (p q : Position) : Prop where
  x : (q.x - p.x).natAbs ≤ greatest
  y : (q.y - p.y).natAbs ≤ greatest

/-- The steps along both axes. -/
def distance (p q : Position) : Nat := (q.x - p.x).natAbs + (q.y - p.y).natAbs

/-- One step to where a tile lies, unless it is reached. -/
def approach (q p : Position) : Position := (p.directionTo q).elim p p.step

/-- In which direction a tile lies as seen from another one. -/
inductive Lies (p q : Position) : Direction → Prop where
  | north (haxis : (q.x - p.x).natAbs ≤ (q.y - p.y).natAbs) (h : q.y < p.y) : Lies p q .north
  | south (haxis : (q.x - p.x).natAbs ≤ (q.y - p.y).natAbs) (h : p.y < q.y) : Lies p q .south
  | west (haxis : (q.y - p.y).natAbs < (q.x - p.x).natAbs) (h : q.x < p.x) : Lies p q .west
  | east (haxis : (q.y - p.y).natAbs < (q.x - p.x).natAbs) (h : p.x < q.x) : Lies p q .east

variable {p q : Position} {d : Direction}

theorem directionTo_eq_none_iff : p.directionTo q = none ↔ p = q := by
  obtain ⟨px, py⟩ := p
  obtain ⟨qx, qy⟩ := q
  simp only [directionTo, mk.injEq]
  split
  · next hsame => exact iff_of_true rfl (by omega)
  · next hapart =>
    split
    · exact iff_of_false nofun (by omega)
    · exact iff_of_false nofun (by omega)

theorem lies_of_directionTo (h : p.directionTo q = some d) : Lies p q d := by
  simp only [directionTo] at h
  split at h
  · cases h
  · next hapart =>
    split at h
    · next haxis =>
      split at h
      · next hbehind =>
        cases h
        exact .north haxis (by omega)
      · next hahead =>
        cases h
        exact .south haxis (by omega)
    · next haxis =>
      split at h
      · next hbehind =>
        cases h
        exact .west (by omega) (by omega)
      · next hahead =>
        cases h
        exact .east (by omega) (by omega)

theorem Lies.directionTo (h : Lies p q d) : p.directionTo q = some d := by
  simp only [Position.directionTo]
  cases h with
  | north haxis h => rw [if_neg (by omega), if_pos haxis, if_pos (by omega)]
  | south haxis h => rw [if_neg (by omega), if_pos haxis, if_neg (by omega)]
  | west haxis h => rw [if_neg (by omega), if_neg (by omega), if_pos (by omega)]
  | east haxis h => rw [if_neg (by omega), if_neg (by omega), if_neg (by omega)]

theorem directionTo_eq_some_iff : p.directionTo q = some d ↔ Lies p q d :=
  ⟨lies_of_directionTo, Lies.directionTo⟩

theorem Lies.opposite (h : Lies p q d) : Lies q p d.opposite := by
  cases h with
  | north haxis h => exact .south (by omega) h
  | south haxis h => exact .north (by omega) h
  | west haxis h => exact .east (by omega) h
  | east haxis h => exact .west (by omega) h

theorem distance_eq_zero_iff : p.distance q = 0 ↔ p = q := by
  obtain ⟨px, py⟩ := p
  obtain ⟨qx, qy⟩ := q
  simp only [distance, mk.injEq]
  omega

theorem OnGrid.step (hp : p.OnGrid) (d : Direction) : (p.step d).OnGrid := by
  obtain ⟨hleft, hright, htop, hbottom⟩ := hp
  cases d <;> constructor <;>
    simp only [Position.step, saturate, least, greatest] at hleft hright htop hbottom ⊢ <;> omega

section

variable (hp : p.OnGrid) (hq : q.OnGrid)

include hp hq

/-- There is room for a step to where another tile lies. -/
theorem Lies.step_eq (h : Lies p q d) : p.step d = p.ahead d 1 := by
  obtain ⟨hleft, hright, htop, hbottom⟩ := hp
  obtain ⟨hleft', hright', htop', hbottom'⟩ := hq
  cases h <;>
    simp only [step, ahead, mk.injEq, true_and, and_true] <;>
    exact saturate_of_mem _ (by omega) (by omega)

theorem Lies.distance_step (h : Lies p q d) : (p.step d).distance q + 1 = p.distance q := by
  rw [h.step_eq hp hq]
  cases h <;> simp only [distance, ahead] <;> omega

theorem Lies.inSight_step (h : Lies p q d) (hsight : p.InSight q) : (p.step d).InSight q := by
  obtain ⟨hx, hy⟩ := hsight
  rw [h.step_eq hp hq]
  cases h <;> constructor <;> simp only [ahead] <;> omega

end

theorem approach_self (q : Position) : approach q q = q := by
  rw [approach, directionTo_eq_none_iff.mpr rfl]
  rfl

theorem Lies.approach_eq (h : Lies p q d) : approach q p = p.step d := by
  rw [approach, h.directionTo]
  rfl

/-- The tile is reached, or lies in some direction. -/
theorem eq_or_lies (p q : Position) : p = q ∨ ∃ d, Lies p q d := by
  cases h : p.directionTo q with
  | none => exact .inl (directionTo_eq_none_iff.mp h)
  | some d => exact .inr ⟨d, lies_of_directionTo h⟩

/-- What holds of somebody who goes to a tile, as long as the way takes. -/
structure Nears (q : Position) (steps : Nat) (p : Position) : Prop where
  onGrid : p.OnGrid
  inSight : p.InSight q
  distance : p.distance q = steps

theorem Nears.approach {steps : Nat} (hq : q.OnGrid) (h : Nears q steps p) :
    Nears q (steps - 1) (approach q p) := by
  obtain ⟨hp, hsight, hsteps⟩ := h
  rcases eq_or_lies p q with rfl | ⟨d, hd⟩
  · have hnone : p.distance p = 0 := distance_eq_zero_iff.mpr rfl
    rw [approach_self]
    exact ⟨hp, hsight, by omega⟩
  · have hless := hd.distance_step hp hq
    rw [hd.approach_eq]
    exact ⟨hp.step d, hd.inSight_step hp hq hsight, by omega⟩

theorem Nears.iterate_approach {steps : Nat} (hq : q.OnGrid) (h : Nears q steps p) (n : Nat) :
    Nears q (steps - n) ((Position.approach q)^[n] p) := by
  induction n with
  | zero => exact h
  | succ n ih =>
    rw [Function.iterate_succ_apply', Nat.sub_add_eq]
    exact ih.approach hq

/-- Of two tiles in sight of each other, each lies in the direction opposite to that of the other,
unless they are one, and a step in that direction takes one off the distance. Whoever goes on so
stays on the grid and in sight, and is there from the step on that the distance counts, and not
before. -/
theorem directions_lead_there (p q : Position) (hp : p.OnGrid) (hq : q.OnGrid)
    (hsight : p.InSight q) :
    (p.directionTo q = none ↔ p = q) ∧
    (∀ d, p.directionTo q = some d →
      q.directionTo p = some d.opposite ∧ (p.step d).distance q + 1 = p.distance q) ∧
    ∀ n, ((approach q)^[n] p).OnGrid ∧ ((approach q)^[n] p).InSight q ∧
      ((approach q)^[n] p = q ↔ p.distance q ≤ n) := by
  refine ⟨directionTo_eq_none_iff, ?_, ?_⟩
  · intro d h
    have hd := directionTo_eq_some_iff.mp h
    exact ⟨directionTo_eq_some_iff.mpr hd.opposite, hd.distance_step hp hq⟩
  · intro n
    have hthen := Nears.iterate_approach hq ⟨hp, hsight, rfl⟩ n
    refine ⟨hthen.onGrid, hthen.inSight, ?_⟩
    rw [← distance_eq_zero_iff, hthen.distance, Nat.sub_eq_zero_iff_le]

/-- From the last row of the first column, as far as tiles can see each other: both ways along the
axes are equally long. -/
theorem corner_leads_to_middle :
    let corner : Position := ⟨least, greatest⟩
    let middle : Position := ⟨-1, 0⟩
    corner.OnGrid ∧ middle.OnGrid ∧ corner.InSight middle ∧
      middle.directionTo corner = some .south ∧
      (corner.step .north).distance middle + 1 = corner.distance middle ∧
      (approach middle)^[0xFFFFFFFE] corner = middle := by
  intro corner middle
  have hcorner : corner.OnGrid := ⟨by decide, by decide, by decide, by decide⟩
  have hmiddle : middle.OnGrid := ⟨by decide, by decide, by decide, by decide⟩
  have hsight : corner.InSight middle := ⟨by decide, by decide⟩
  obtain ⟨-, hstep, hwalk⟩ := directions_lead_there corner middle hcorner hmiddle hsight
  obtain ⟨hback, hless⟩ := hstep .north (by decide)
  exact ⟨hcorner, hmiddle, hsight, hback, hless, (hwalk _).2.2.mpr (by decide)⟩

end Position

end StoryEngine
