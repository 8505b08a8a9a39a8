import StoryEngine.Proofs.Dispatch.Failure

/-! # Removing actors by a word

The word that says who is to be removed is taken for a kind first, and for the name of an actor only
if nobody is of that kind. The actor whom the word names for every other action is therefore missed
if it is of another kind than somebody else who is of the kind so called.
-/

namespace StoryEngine

set_option autoImplicit false

open Text (sameName)

namespace World

/-- The handle refers to a living actor of that kind. -/
def OfKind (w : World) (kind : String) (h : Handle) : Prop :=
  ∃ actor, w.actor? h = some actor ∧ sameName actor.kind kind = true

/-- The word stands for the actor when somebody is to be removed. -/
def Meant (w : World) (word : String) (h : Handle) : Prop :=
  w.OfKind word h ∨ (∀ k, ¬w.OfKind word k) ∧ w.findActor? word = some h

variable {w : World} {word : String} {h : Handle}

theorem mem_ofKind_iff : h ∈ w.actors.ofKind word ↔ w.OfKind word h :=
  Arena.mem_handlesWhere_iff

theorem ofKind_eq_nil_iff : w.actors.ofKind word = [] ↔ ∀ k, ¬w.OfKind word k := by
  simp only [List.eq_nil_iff_forall_not_mem, mem_ofKind_iff]

theorem forall_not_meant_iff :
    (∀ h, ¬w.Meant word h) ↔ (∀ k, ¬w.OfKind word k) ∧ w.findActor? word = none := by
  rw [Option.eq_none_iff_forall_ne_some]
  constructor
  · intro hnobody
    have hnone : ∀ k, ¬w.OfKind word k := fun k hk => hnobody k (.inl hk)
    exact ⟨hnone, fun h hfound => hnobody h (.inr ⟨hnone, hfound⟩)⟩
  · rintro ⟨hnone, hnobody⟩ h (hkind | ⟨_, hfound⟩)
    · exact hnone h hkind
    · exact hnobody h hfound

/-- Whom the word names is meant if he is of the kind so called or nobody is. -/
theorem meant_of_findActor? (hfound : w.findActor? word = some h) :
    w.Meant word h ↔ w.OfKind word h ∨ ∀ k, ¬w.OfKind word k := by
  rw [Meant, hfound, and_iff_left rfl]

theorem exists_meant (hfound : w.findActor? word = some h) : ∃ k, w.Meant word k := by
  by_cases hkind : ∃ k, w.OfKind word k
  · obtain ⟨k, hk⟩ := hkind
    exact ⟨k, .inl hk⟩
  · exact ⟨h, .inr ⟨not_exists.mp hkind, hfound⟩⟩

theorem actor?_of_findActor? (hfound : w.findActor? word = some h) :
    ∃ actor, w.actor? h = some actor := by
  unfold findActor? at hfound
  split at hfound
  · obtain ⟨_, hlives⟩ := Option.filter_eq_some_iff.mp hfound
    exact Option.isSome_iff_exists.mp hlives
  · obtain ⟨actor, hactor, _⟩ := Arena.get?_of_findByName? hfound
    exact ⟨actor, hactor⟩

end World

namespace Dispatch

variable {word : String} {h : Handle}

/-- A removal by a word takes those who are meant, or fails and changes nothing if nobody is. -/
theorem perform_destroy_named (place : Place) (scope : Scope) (stage : Stage) (word : String) :
    (∃ handles, (∀ h, h ∈ handles ↔ stage.world.Meant word h) ∧
        (∃ h, stage.world.Meant word h) ∧
        perform place scope stage (.destroy (.named word)) =
          ({ stage with world := despawnAll stage.world handles }, .ok .proceed)) ∨
      (∀ h, ¬stage.world.Meant word h) ∧
        perform place scope stage (.destroy (.named word)) =
          (stage, .error (missingActor place scope word)) := by
  cases hkind : stage.world.actors.ofKind word with
  | cons k rest =>
    have hmem (h : Handle) : h ∈ k :: rest ↔ stage.world.OfKind word h :=
      hkind ▸ World.mem_ofKind_iff
    have hsome : stage.world.OfKind word k := (hmem k).mp List.mem_cons_self
    refine .inl ⟨k :: rest, fun h => ?_, ⟨k, .inl hsome⟩, ?_⟩
    · rw [hmem]
      exact (or_iff_left fun hnone => hnone.1 k hsome).symm
    · simp only [perform, destroy, destroyNamed, hkind, afterDestroy, Except.map]
  | nil =>
    have hnone := World.ofKind_eq_nil_iff.mp hkind
    cases hfound : stage.world.findActor? word with
    | some k =>
      refine .inl ⟨[k], fun h => ?_, ⟨k, .inr ⟨hnone, hfound⟩⟩, ?_⟩
      · rw [World.Meant, hfound, List.mem_singleton, Option.some.injEq, eq_comm]
        exact (or_iff_right (hnone h)).trans (and_iff_right hnone) |>.symm
      · simp only [perform, destroy, destroyNamed, hkind, hfound, afterDestroy, Except.map]
        rfl
    | none =>
      refine .inr ⟨World.forall_not_meant_iff.mpr ⟨hnone, hfound⟩, ?_⟩
      simp only [perform, destroy, destroyNamed, hkind, hfound, afterDestroy, Except.map]

section

variable {stage : Stage} (place : Place) (scope : Scope)

theorem actor?_of_meant (hmeant : stage.world.Meant word h) :
    (perform place scope stage (.destroy (.named word))).1.world.actor? h = none := by
  rcases perform_destroy_named place scope stage word with ⟨handles, hmem, _, hdone⟩ | ⟨hnobody, _⟩
  · rw [hdone, actor?_despawnAll, if_pos ((hmem h).mpr hmeant)]
  · exact absurd hmeant (hnobody h)

theorem actor?_of_not_meant (hspared : ¬stage.world.Meant word h) :
    (perform place scope stage (.destroy (.named word))).1.world.actor? h =
      stage.world.actor? h := by
  rcases perform_destroy_named place scope stage word with ⟨handles, hmem, _, hdone⟩ | ⟨_, hdone⟩
  · rw [hdone, actor?_despawnAll, if_neg fun hh => hspared ((hmem h).mp hh)]
  · rw [hdone]

theorem perform_destroy_named_ok (hmeant : stage.world.Meant word h) :
    (perform place scope stage (.destroy (.named word))).2 = .ok .proceed := by
  rcases perform_destroy_named place scope stage word with ⟨_, _, _, hdone⟩ | ⟨hnobody, _⟩
  · rw [hdone]
  · exact absurd hmeant (hnobody h)

theorem perform_destroy_named_error_iff :
    (∃ e, (perform place scope stage (.destroy (.named word))).2 = .error e) ↔
      ∀ h, ¬stage.world.Meant word h := by
  rcases perform_destroy_named place scope stage word with
    ⟨_, _, ⟨h, hmeant⟩, hdone⟩ | ⟨hnobody, hdone⟩
  · rw [hdone]
    exact iff_of_false nofun fun hnobody => hnobody h hmeant
  · rw [hdone]
    exact iff_of_true ⟨_, rfl⟩ hnobody

end

/-- Whom a word names is gone after the removal by that word exactly if he is of the kind so called
or nobody is. Nobody goes who is neither named so nor of that kind, and the removal fails exactly if
there is no one of either sort. -/
theorem named_gone_iff (place : Place) (scope : Scope) (stage : Stage) (word : String) :
    let w := stage.world
    let after := perform place scope stage (.destroy (.named word))
    (∀ h, w.findActor? word = some h → after.2 = .ok .proceed ∧
        (after.1.world.actor? h = none ↔ w.OfKind word h ∨ ∀ k, ¬w.OfKind word k)) ∧
      (∀ h a, w.actor? h = some a → w.findActor? word ≠ some h → sameName a.kind word = false →
        after.1.world.actor? h = some a) ∧
      ((∃ e, after.2 = .error e) ↔ (∀ k, ¬w.OfKind word k) ∧ w.findActor? word = none) := by
  intro w after
  refine ⟨fun h hfound => ⟨?_, ?_⟩, fun h a ha hname hkind => ?_, ?_⟩
  · obtain ⟨k, hmeant⟩ := World.exists_meant hfound
    exact perform_destroy_named_ok place scope hmeant
  · rw [← World.meant_of_findActor? hfound]
    by_cases hmeant : w.Meant word h
    · exact iff_of_true (actor?_of_meant place scope hmeant) hmeant
    · obtain ⟨a, ha⟩ := World.actor?_of_findActor? hfound
      refine iff_of_false (fun hgone => ?_) hmeant
      cases hgone.symm.trans ((actor?_of_not_meant place scope hmeant).trans ha)
  · refine (actor?_of_not_meant place scope ?_).trans ha
    rintro (⟨b, hb, hother⟩ | ⟨_, hfound⟩)
    · cases ha.symm.trans hb
      rw [hkind] at hother
      cases hother
    · exact hname hfound
  · exact (perform_destroy_named_error_iff place scope).trans World.forall_not_meant_iff

/-- A man called rock is missed, since a boulder is of the kind so called. -/
theorem man_called_rock_stays :
    let man : Actor := .arriving "Rock" "npc" ⟨1, 1⟩
    let w := (((World.blank ∅).spawn man).2.spawn (.arriving "boulder" "rock" ⟨2, 2⟩)).2
    let after := perform ⟨.blank "test_map" 16 16, 0⟩ ⟨"test", none, "test#1"⟩ ⟨w, ∅⟩
      (.destroy (.named "rock"))
    w.findActor? "rock" = some ⟨0, 0⟩ ∧ after.2 = .ok .proceed ∧
      after.1.world.actors.toList = [(⟨0, 0⟩, man)] :=
  ⟨by decide +kernel, rfl, by decide +kernel⟩

end Dispatch

end StoryEngine
