import StoryEngine.Proofs.World.Course
import StoryEngine.Proofs.World.Handles
import StoryEngine.World.Walkers

/-! # A walker with nobody in the way

On a map without obstacles, an actor among others who are hidden and stand still is taken one step
on by each round, and each step is the next of its path.
-/

namespace StoryEngine

set_option autoImplicit false

namespace Actor

/-- The actor after the first steps of a path. -/
def strolled (path : List Direction) (n : Nat) (a : Actor) : Actor :=
  { a with
    position := a.position.walk (path.take n)
    facing := (path.take n).getLast?.getD a.facing
    path := path.drop n }

variable {path : List Direction} {n : Nat}

theorem strolled_of_le (h : path.length ≤ n) (a : Actor) :
    a.strolled path n =
      { a with
        position := a.position.walk path
        facing := path.getLast?.getD a.facing
        path := [] } := by
  rw [strolled, List.take_of_length_le h, List.drop_of_length_le h]

theorem isWalking_strolled (a : Actor) :
    (a.strolled path n).isWalking = true ↔ n < path.length := by
  rw [isWalking, strolled, Bool.not_eq_true', List.isEmpty_eq_false_iff, Ne,
    List.drop_eq_nil_iff, Nat.not_le]

theorem stepAlong_strolled (a : Actor) (h : n < path.length) :
    World.stepAlong ((a.strolled path n).position.step path[n]) path[n] (a.strolled path n) =
      a.strolled path (n + 1) := by
  have htake : path.take (n + 1) = path.take n ++ [path[n]] := List.take_succ_eq_append_getElem h
  simp only [strolled, World.stepAlong, htake, Position.walk, List.foldl_append, List.foldl_cons,
    List.foldl_nil, List.getLast?_append, List.getLast?_singleton, List.tail_drop]
  rfl

end Actor

namespace World

/-- On a map without obstacles somebody is about to take a path, and everybody else is hidden and
stands still. -/
structure Strolls (map : GridMap) (w : World) (h : Handle) (actor : Actor)
    (path : List Direction) : Prop where
  clear : map.blocked = []
  walker : w.actor? h = some actor
  stays : map.Holds actor.position path
  alone : ∀ k other, w.actor? k = some other → k ≠ h → other.hidden = true ∧ other.path = []

variable {map : GridMap} {w : World} {h : Handle} {actor : Actor} {path : List Direction} {n : Nat}

theorem Strolls.actor?_eq (hs : Strolls map w h actor path) (n : Nat) (k : Handle) :
    (w.modifyActor h (Actor.strolled path n)).actor? k =
      if k = h then some (actor.strolled path n) else w.actor? k := by
  rw [actor?_modifyActor, hs.walker]
  rfl

theorem Strolls.occupiedByOther_eq (hs : Strolls map w h actor path) (n : Nat) (p : Position) :
    (w.modifyActor h (Actor.strolled path n)).occupiedByOther h p = false := by
  rw [occupiedByOther, List.any_eq_false]
  rintro ⟨k, other⟩ hmem
  have hother := hs.actor?_eq n k
  rw [actor?, Arena.mem_toList_iff.mp hmem] at hother
  by_cases hk : k = h
  · simp [hk]
  · rw [if_neg hk] at hother
    simp [(hs.alone k other hother.symm hk).1]

theorem Strolls.walking_iff (hs : Strolls map w h actor path) (n : Nat) {k : Handle}
    {other : Actor} (hother : (w.modifyActor h (Actor.strolled path n)).actor? k = some other) :
    other.isWalking = true ↔ k = h ∧ n < path.length := by
  rw [hs.actor?_eq] at hother
  split at hother
  · next hk =>
    cases hother
    rw [Actor.isWalking_strolled]
    exact (and_iff_right hk).symm
  · next hk =>
    simp [Actor.isWalking, (hs.alone k other hother hk).2, hk]

theorem Strolls.inBounds_step (hs : Strolls map w h actor path) (hn : n < path.length) :
    map.inBounds ((actor.strolled path n).position.step path[n]) = true := by
  have hnext := hs.stays _ (List.take_prefix (n + 1) path)
  rw [List.take_succ_eq_append_getElem hn, Position.walk, List.foldl_append] at hnext
  exact hnext

theorem Strolls.stepWalker_eq (hs : Strolls map w h actor path) (hn : n < path.length) :
    (w.modifyActor h (Actor.strolled path n)).stepWalker map h =
      (w.modifyActor h (Actor.strolled path (n + 1)), .ok true) := by
  have hactor := (hs.actor?_eq n h).trans (if_pos rfl)
  have hpath : (actor.strolled path n).path = path[n] :: path.drop (n + 1) :=
    List.drop_eq_getElem_cons hn
  have hin := hs.inBounds_step hn
  have hpassable : map.isPassable ((actor.strolled path n).position.step path[n]) = true := by
    rw [GridMap.isPassable, hin, hs.clear]
    rfl
  -- The step is one more on the way from where the walk began.
  have hmoved : ((w.actors.modify h (Actor.strolled path n)).modify h
      (stepAlong ((actor.strolled path n).position.step path[n]) path[n])) =
        w.actors.modify h (Actor.strolled path (n + 1)) := by
    rw [Arena.modify_modify]
    exact Arena.modify_congr hs.walker (actor.stepAlong_strolled hn)
  simp only [stepWalker, hactor, hpath, hin, hpassable, hs.occupiedByOther_eq, Bool.not_true,
    Bool.or_self, Bool.false_eq_true, if_false]
  simp only [modifyActor, hmoved]

/-- Each round takes the walker one step on, until there is none left. -/
theorem Strolls.stepWalkers_eq (hs : Strolls map w h actor path) (n : Nat) :
    (w.modifyActor h (Actor.strolled path n)).stepWalkers map =
      (w.modifyActor h (Actor.strolled path (n + 1)), .ok (if n < path.length then 1 else 0)) := by
  by_cases hn : n < path.length
  · have hhandles : (w.modifyActor h (Actor.strolled path n)).actors.handlesWhere
        Actor.isWalking = [h] := by
      refine Arena.handlesWhere_eq_singleton ⟨_, ?_, (Actor.isWalking_strolled actor).mpr hn⟩ ?_
      · exact (hs.actor?_eq n h).trans (if_pos rfl)
      · exact fun k other hother hwalks => ((hs.walking_iff n hother).mp hwalks).1
    simp only [stepWalkers, hhandles, stepEach, hs.stepWalker_eq hn, if_pos hn]
    rfl
  · have hhandles : (w.modifyActor h (Actor.strolled path n)).actors.handlesWhere
        Actor.isWalking = [] := by
      refine List.eq_nil_iff_forall_not_mem.mpr fun k hk => ?_
      obtain ⟨other, hother, hwalks⟩ := Arena.mem_handlesWhere_iff.mp hk
      exact hn ((hs.walking_iff n hother).mp hwalks).2
    have hrests : actor.strolled path n = actor.strolled path (n + 1) := by
      rw [Actor.strolled_of_le (Nat.le_of_not_lt hn),
        Actor.strolled_of_le (Nat.le_succ_of_le (Nat.le_of_not_lt hn))]
    have hsame : w.modifyActor h (Actor.strolled path n) =
        w.modifyActor h (Actor.strolled path (n + 1)) := by
      simp only [modifyActor, Arena.modify_congr hs.walker hrests]
    rw [stepWalkers, hhandles, stepEach, if_neg hn, hsame]

end World

end StoryEngine
