import StoryEngine.Proofs.World.Rounds

/-! # Rounds that fail

A walker whose step leads off the map ends the round with an error, and those whose turn came before
have taken their steps by then. So a round that fails leaves the world as it was exactly if nobody
in front of that walker can take a step.
-/

namespace StoryEngine

set_option autoImplicit false

namespace Actor

/-- Whoever has a step to take is another actor after it. -/
theorem strode_ne {a : Actor} {p : Position} (h : a.next? = some p) : a.strode ≠ a := by
  obtain ⟨direction, path, hpath, _⟩ := next?_eq_some_iff.mp h
  intro hsame
  have hlength := congrArg (fun b : Actor => b.path.length) hsame
  simp [strode, hpath, World.stepAlong] at hlength

end Actor

namespace World

variable {map : GridMap} {w next : World} {h k : Handle} {e : ScriptError}
  {movers front back handles : List Handle}

/-- Those who have a turn in a round, in slot order. -/
def walkers (w : World) : List Handle := w.actors.handlesWhere Actor.isWalking

theorem nodup_walkers (w : World) : w.walkers.Nodup :=
  w.actors.nodup_handlesWhere Actor.isWalking

theorem stepWalkers_eq_stepEach (map : GridMap) (w : World) :
    w.stepWalkers map = stepEach map w w.walkers := rfl

theorem leaves_modifyActor (change : Actor → Actor) (hne : k ≠ h) :
    (w.modifyActor h change).leaves map k = w.leaves map k := by
  rw [leaves, actor?_modifyActor, if_neg hne, leaves]

theorem LeavesWith.modifyActor (hleaves : w.LeavesWith map k e) (change : Actor → Actor)
    (hne : k ≠ h) : (w.modifyActor h change).LeavesWith map k e := by
  rw [LeavesWith, actor?_modifyActor, if_neg hne]
  exact hleaves

/-- Where somebody has moved, the world is not what it was. -/
theorem Moved.ne (hm : Moved map w movers next) (hh : h ∈ movers) : next ≠ w := by
  rintro rfl
  obtain ⟨a, p, ha, hnext, _⟩ := hm.ahead h hh
  have hlook := hm.look h
  rw [if_pos hh, ha, Option.map_some, Option.some.injEq] at hlook
  exact Actor.strode_ne hnext hlook.symm

theorem stepEach_ne_of_goes (hnodup : (h :: handles).Nodup) (hgoes : w.goes map h = true) :
    (stepEach map w (h :: handles)).1 ≠ w := by
  obtain ⟨hfresh, hnodup⟩ := List.nodup_cons.mp hnodup
  have hnew : ∀ k ∈ handles, k ∉ [h] := fun k hk hmem => hfresh (List.mem_singleton.mp hmem ▸ hk)
  obtain ⟨all, hall, hsuffix, _⟩ :=
    ((Moved.nil map w).goOn List.not_mem_nil hgoes).stepEach hnodup hnew
  rw [stepEach_cons_of_goes handles hgoes]
  exact hall.ne (hsuffix.subset List.mem_cons_self)

/-- With nobody about to leave in front of it, a walker that leaves ends the round, and nothing has
changed by then exactly if nobody in front of it could take a step. -/
theorem stepEach_first_leaving (hnodup : (front ++ k :: back).Nodup)
    (hfront : ∀ j ∈ front, w.leaves map j = false) (hleaves : w.LeavesWith map k e) :
    (stepEach map w (front ++ k :: back)).2 = .error e ∧
      ((stepEach map w (front ++ k :: back)).1 = w ↔ ∀ j ∈ front, w.goes map j = false) := by
  induction front generalizing w with
  | nil =>
    rw [List.nil_append, stepEach_cons_of_leaves back hleaves]
    exact ⟨rfl, iff_of_true rfl fun j hj => absurd hj List.not_mem_nil⟩
  | cons h front ih =>
    rw [List.cons_append] at hnodup ⊢
    obtain ⟨hfresh, hrest⟩ := List.nodup_cons.mp hnodup
    obtain ⟨hstays, hfront⟩ := List.forall_mem_cons.mp hfront
    cases hgoes : w.goes map h with
    | false =>
      rw [stepEach_cons_of_waits _ hstays hgoes, List.forall_mem_cons]
      have hlater := ih hrest hfront hleaves
      exact ⟨hlater.1, hlater.2.trans (and_iff_right hgoes).symm⟩
    | true =>
      -- The step changes nobody but the walker that takes it, so that those behind it are about to
      -- leave the map, or not, as they were before.
      have hne (j : Handle) (hj : j ∈ front ++ k :: back) : j ≠ h := fun heq => hfresh (heq ▸ hj)
      have hlater := ih hrest
        (fun j hj => (leaves_modifyActor Actor.strode (hne j (List.mem_append_left _ hj))).trans
          (hfront j hj))
        (hleaves.modifyActor Actor.strode (hne k (List.mem_append_right _ List.mem_cons_self)))
      refine ⟨?_, iff_of_false (stepEach_ne_of_goes hnodup hgoes) fun hnone => ?_⟩
      · rw [stepEach_cons_of_goes _ hgoes]
        exact congrArg (Except.map _) hlater.1
      · rw [hnone h List.mem_cons_self] at hgoes
        cases hgoes

theorem stepEach_of_nobody_leaves (hnodup : handles.Nodup)
    (hstay : ∀ j ∈ handles, w.leaves map j = false) : ∃ n, (stepEach map w handles).2 = .ok n := by
  induction handles generalizing w with
  | nil => exact ⟨0, rfl⟩
  | cons h rest ih =>
    obtain ⟨hfresh, hnodup⟩ := List.nodup_cons.mp hnodup
    obtain ⟨hstays, hstay⟩ := List.forall_mem_cons.mp hstay
    cases hgoes : w.goes map h with
    | false =>
      rw [stepEach_cons_of_waits _ hstays hgoes]
      exact ih hnodup hstay
    | true =>
      obtain ⟨n, hn⟩ := ih (w := w.modifyActor h Actor.strode) hnodup fun j hj =>
        (leaves_modifyActor Actor.strode fun heq : j = h => hfresh (heq ▸ hj)).trans (hstay j hj)
      rw [stepEach_cons_of_goes _ hgoes]
      exact ⟨n + 1, congrArg (Except.map _) hn⟩

/-- A round fails with the error of the first walker, in slot order, whose step leads off the
map. -/
theorem stepWalkers_error_iff :
    (w.stepWalkers map).2 = .error e ↔ ∃ front k back, w.walkers = front ++ k :: back ∧
      (∀ j ∈ front, w.leaves map j = false) ∧ w.LeavesWith map k e := by
  have hnodup := w.nodup_walkers
  rw [stepWalkers_eq_stepEach]
  constructor
  · intro herror
    cases hfirst : w.walkers.find? (w.leaves map) with
    | none =>
      obtain ⟨n, hn⟩ := stepEach_of_nobody_leaves hnodup fun j hj =>
        Bool.eq_false_iff.mpr (List.find?_eq_none.mp hfirst j hj)
      cases herror.symm.trans hn
    | some k =>
      obtain ⟨hk, front, back, hsplit, hfront⟩ := List.find?_eq_some_iff_append.mp hfirst
      have hfront : ∀ j ∈ front, w.leaves map j = false := fun j hj => by simpa using hfront j hj
      obtain ⟨e', hleaves⟩ := leaves_iff.mp hk
      rw [hsplit] at herror hnodup
      cases herror.symm.trans (stepEach_first_leaving hnodup hfront hleaves).1
      exact ⟨front, k, back, hsplit, hfront, hleaves⟩
  · rintro ⟨front, k, back, hsplit, hfront, hleaves⟩
    rw [hsplit] at hnodup ⊢
    exact (stepEach_first_leaving hnodup hfront hleaves).1

/-- That a round which fails leaves the world as it was holds exactly if nobody in front of the
first walker whose step leads off the map can take a step. -/
theorem failed_round_unchanged_iff (map : GridMap) (w : World) :
    (∀ e, (w.stepWalkers map).2 = .error e → (w.stepWalkers map).1 = w) ↔
      ∀ front k back, w.walkers = front ++ k :: back →
        (∀ j ∈ front, w.leaves map j = false) → w.leaves map k = true →
          ∀ j ∈ front, w.goes map j = false := by
  have hnodup := w.nodup_walkers
  constructor
  · intro hsame front k back hsplit hfront hk
    obtain ⟨e, hleaves⟩ := leaves_iff.mp hk
    have hunchanged := hsame e (stepWalkers_error_iff.mpr ⟨front, k, back, hsplit, hfront, hleaves⟩)
    rw [stepWalkers_eq_stepEach, hsplit] at hunchanged
    exact (stepEach_first_leaving (hsplit ▸ hnodup) hfront hleaves).2.mp hunchanged
  · intro hnone e herror
    obtain ⟨front, k, back, hsplit, hfront, hleaves⟩ := stepWalkers_error_iff.mp herror
    have hstay := hnone front k back hsplit hfront (leaves_iff.mpr ⟨e, hleaves⟩)
    rw [stepWalkers_eq_stepEach, hsplit]
    exact (stepEach_first_leaving (hsplit ▸ hnodup) hfront hleaves).2.mpr hstay

/-- The cow has taken its step when the calf behind it makes the round fail. -/
theorem cow_steps_before_calf_leaves :
    let map : GridMap := .blank "test_map" 16 16
    let cow : Actor := { Actor.arriving "cow" "animal" ⟨1, 1⟩ with path := [.east] }
    let calf : Actor := { Actor.arriving "calf" "animal" ⟨0, 0⟩ with path := [.north] }
    let w := (((World.blank ∅).spawn cow).2.spawn calf).2
    (w.stepWalkers map).2 = .error (.outOfBounds "calf" ⟨0, -1⟩ "" "test_map") ∧
      (w.stepWalkers map).1.actors.toList =
        [(⟨0, 0⟩, { cow with position := ⟨2, 1⟩, facing := .east, path := [] }),
          (⟨1, 0⟩, calf)] ∧
      (w.stepWalkers map).1 ≠ w := by
  decide +kernel

end World

end StoryEngine
