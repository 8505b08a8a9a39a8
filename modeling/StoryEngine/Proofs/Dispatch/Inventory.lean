import Mathlib.Data.List.Induction
import StoryEngine.Proofs.Dispatch.Footprint
import StoryEngine.Script.ActionReader

/-! # What is in the inventory

Taking strikes an item off with the last of it, and giving adds to what is held, so that an item is
listed exactly as long as it is held. The one exception is a gift of none: it lists an item of which
there is nothing if the item was not listed before.
-/

namespace StoryEngine

set_option autoImplicit false

namespace World

/-- Of every item that is listed there is at least one. -/
def Stocked (w : World) : Prop := ∀ item count, w.inventory.get? item = some count → 0 < count

instance (w : World) : Decidable w.Stocked :=
  decidable_of_iff (∀ entry ∈ w.inventory.toList, 0 < entry.2)
    ⟨fun h item count hcount => h (item, count) (StringMap.get?_eq_some_iff.mp hcount),
      fun h entry hentry => h entry.1 entry.2 (StringMap.get?_eq_some_iff.mpr hentry)⟩

variable {w : World} {item other : String} {count : Nat}

theorem itemCount_of_not_contains (h : w.inventory.contains item = false) :
    w.itemCount item = 0 := by
  rw [StringMap.contains, Option.isSome_eq_false_iff, Option.isNone_iff_eq_none] at h
  simp [itemCount, h]

theorem stocked_iff_itemCount :
    w.Stocked ↔ ∀ item, w.inventory.contains item = true → 0 < w.itemCount item := by
  constructor
  · intro h item hlisted
    obtain ⟨count, hcount⟩ := Option.isSome_iff_exists.mp hlisted
    simpa [itemCount, hcount] using h item count hcount
  · intro h item count hcount
    simpa [itemCount, hcount] using h item (Option.isSome_iff_exists.mpr ⟨count, hcount⟩)

theorem itemCount_giveItem (w : World) (item other : String) (count : Nat) :
    (w.giveItem item count).itemCount other =
      if other = item then min (w.itemCount other + count) maxItems else w.itemCount other := by
  simp only [itemCount, giveItem, StringMap.get?_insert]
  split
  · next h => simp only [h, Option.getD_some]
  · rfl

theorem contains_giveItem (w : World) (item other : String) (count : Nat) :
    (w.giveItem item count).inventory.contains other =
      (other == item || w.inventory.contains other) :=
  StringMap.contains_insert w.inventory item other _

theorem get?_takeItem (w : World) (item other : String) (count : Nat) :
    (w.takeItem item count).inventory.get? other =
      if other = item then
        if w.itemCount other ≤ count then none else some (w.itemCount other - count)
      else w.inventory.get? other := by
  unfold takeItem
  by_cases hlisted : w.inventory.contains item = true
  · rw [if_pos hlisted]
    split
    · next hall =>
      simp only [StringMap.get?_erase]
      split
      · next h => simp [h, hall]
      · rfl
    · next hsome =>
      simp only [StringMap.get?_insert]
      split
      · next h => simp [h, hsome]
      · rfl
  · rw [if_neg hlisted]
    split
    · next h =>
      have hnone : w.inventory.get? item = none := by
        simpa [StringMap.contains] using hlisted
      simp [h, itemCount, hnone]
    · rfl

theorem itemCount_takeItem (w : World) (item other : String) (count : Nat) :
    (w.takeItem item count).itemCount other =
      if other = item then w.itemCount other - min count (w.itemCount other)
      else w.itemCount other := by
  rw [itemCount, get?_takeItem]
  split
  · split
    · simp only [Option.getD_none]
      omega
    · simp only [Option.getD_some]
      omega
  · rfl

theorem contains_takeItem (w : World) (item other : String) (count : Nat) :
    (w.takeItem item count).inventory.contains other =
      if other = item then decide (count < w.itemCount other) else w.inventory.contains other := by
  rw [StringMap.contains, get?_takeItem]
  split
  · split
    · next hall => simp [hall]
    · next hsome => simp [Nat.lt_of_not_le hsome]
  · rfl

/-- Giving leaves every item that is listed in stock unless none is given of one that was not
listed. -/
theorem Stocked.giveItem_iff (h : w.Stocked) :
    (w.giveItem item count).Stocked ↔ ¬(count = 0 ∧ w.inventory.contains item = false) := by
  rw [stocked_iff_itemCount] at h ⊢
  constructor
  · rintro hafter ⟨rfl, hunlisted⟩
    have hcount := hafter item (by simp [contains_giveItem])
    rw [itemCount_giveItem, if_pos rfl, itemCount_of_not_contains hunlisted] at hcount
    simp at hcount
  · intro hgift other hlisted
    rw [contains_giveItem] at hlisted
    rw [itemCount_giveItem]
    split
    · next heq =>
      subst heq
      have hsome : 0 < w.itemCount other + count := by
        by_cases hbefore : w.inventory.contains other = true
        · have := h other hbefore
          omega
        · have : count ≠ 0 := fun hnone => hgift ⟨hnone, by simpa using hbefore⟩
          omega
      exact Nat.lt_min.mpr ⟨hsome, by decide⟩
    · next hne => exact h other (by simpa [hne] using hlisted)

theorem Stocked.takeItem (h : w.Stocked) (item : String) (count : Nat) :
    (w.takeItem item count).Stocked := by
  rw [stocked_iff_itemCount] at h ⊢
  intro other hlisted
  rw [contains_takeItem] at hlisted
  rw [itemCount_takeItem]
  split
  · next heq =>
    have : count < w.itemCount other := by simpa [heq] using hlisted
    omega
  · next hne => exact h other (by simpa [hne] using hlisted)

/-- While everything listed is in stock, one has what is listed and what one wears. -/
theorem Stocked.hasItem_iff (h : w.Stocked) :
    w.hasItem item = true ↔
      item ∈ w.inventory.keys ∨ ∃ worn ∈ w.equipment, worn.id = item := by
  have hheld : 0 < w.itemCount item ↔ w.inventory.contains item = true := by
    refine ⟨fun hpos => ?_, stocked_iff_itemCount.mp h item⟩
    by_contra hunlisted
    rw [itemCount_of_not_contains (by simpa using hunlisted)] at hpos
    omega
  rw [hasItem, Bool.or_eq_true, decide_eq_true_iff, hheld, StringMap.contains_iff_mem_keys,
    List.any_eq_true]
  simp only [beq_iff_eq]

end World

namespace Dispatch

/-- What an action makes of the number of an item that is held. -/
def countAfter (item : String) (held : Nat) : Action → Nat
  | .giveItem given count => if item = given then min (held + count) World.maxItems else held
  | .takeItem taken count => if item = taken then held - min count held else held
  | _ => held

/-- None is given of an item that is not listed. -/
def GivesNone (w : World) : Action → Prop
  | .giveItem item count => count = 0 ∧ w.inventory.contains item = false
  | _ => False

instance (w : World) (action : Action) : Decidable (GivesNone w action) := by
  unfold GivesNone
  split <;> infer_instance

section

variable (place : Place) (scope : Scope) (stage : Stage)

/-- Only giving and taking items come to anything in the inventory. -/
theorem inventory_perform {action : Action} (h : ownPart action ≠ some .inventory) :
    (perform place scope stage action).1.world.inventory = stage.world.inventory :=
  ((perform_replaces place scope stage action).same h).symm

theorem itemCount_perform (action : Action) (item : String) :
    (perform place scope stage action).1.world.itemCount item =
      countAfter item (stage.world.itemCount item) action := by
  by_cases hown : ownPart action = some .inventory
  · cases action with
    | giveItem given count => exact World.itemCount_giveItem stage.world given item count
    | takeItem taken count => exact World.itemCount_takeItem stage.world taken item count
    | _ => cases hown
  · have hsame : countAfter item (stage.world.itemCount item) action =
        stage.world.itemCount item := by
      cases action with
      | giveItem | takeItem => exact absurd rfl hown
      | _ => rfl
    rw [hsame, World.itemCount, inventory_perform place scope stage hown]
    rfl

variable {stage}

theorem stocked_perform_iff (h : stage.world.Stocked) (action : Action) :
    (perform place scope stage action).1.world.Stocked ↔ ¬GivesNone stage.world action := by
  by_cases hown : ownPart action = some .inventory
  · cases action with
    | giveItem given count => exact h.giveItem_iff
    | takeItem taken count => exact iff_of_true (h.takeItem taken count) id
    | _ => cases hown
  · refine iff_of_true ?_ fun hnone => ?_
    · rwa [World.Stocked, inventory_perform place scope stage hown]
    · cases action with
      | giveItem => exact hown rfl
      | _ => exact hnone

end

/-- The stage after actions, each at its place and for its run, whether or not they failed. -/
def performInTurn (stage : Stage) (acts : List (Place × Scope × Action)) : Stage :=
  acts.foldl (fun stage act => (perform act.1 act.2.1 stage act.2.2).1) stage

theorem performInTurn_snoc (stage : Stage) (acts : List (Place × Scope × Action))
    (act : Place × Scope × Action) :
    performInTurn stage (acts ++ [act]) =
      (perform act.1 act.2.1 (performInTurn stage acts) act.2.2).1 :=
  List.foldl_append ..

/-- Whatever is listed is in stock after any of a sequence of actions exactly if none of them gives
none of an item that is not listed by then. The number of an item changes by adding what is given,
up to the largest number there is, and by taking away what is asked for and held. While everything
listed is in stock, one has what is listed and what one wears. -/
theorem stocked_iff_gives_some (stage : Stage) (hstart : stage.world.Stocked)
    (acts : List (Place × Scope × Action)) :
    ((∀ before later, acts = before ++ later → (performInTurn stage before).world.Stocked) ↔
      ∀ before act later, acts = before ++ act :: later →
        ¬GivesNone (performInTurn stage before).world act.2.2) ∧
    (∀ before act later, acts = before ++ act :: later → ∀ item,
      (performInTurn stage (before ++ [act])).world.itemCount item =
        countAfter item ((performInTurn stage before).world.itemCount item) act.2.2) ∧
    ∀ before later, acts = before ++ later → (performInTurn stage before).world.Stocked →
      ∀ item, (performInTurn stage before).world.hasItem item = true ↔
        item ∈ (performInTurn stage before).world.inventory.keys ∨
          ∃ worn ∈ (performInTurn stage before).world.equipment, worn.id = item := by
  refine ⟨⟨fun h before act later hsplit => ?_, fun h before => ?_⟩,
    fun before act later _ item => ?_, fun before later _ hstocked item => hstocked.hasItem_iff⟩
  · have hnext := h (before ++ [act]) later (by rw [hsplit, List.append_assoc]; rfl)
    rw [performInTurn_snoc] at hnext
    exact (stocked_perform_iff act.1 act.2.1 (h before _ hsplit) act.2.2).mp hnext
  · induction before using List.reverseRecOn with
    | nil => exact fun _ _ => hstart
    | append_singleton before act ih =>
      intro later hsplit
      rw [List.append_assoc] at hsplit
      rw [performInTurn_snoc]
      exact (stocked_perform_iff act.1 act.2.1 (ih _ hsplit) act.2.2).mpr
        (h before act later hsplit)
  · rw [performInTurn_snoc]
    exact itemCount_perform act.1 act.2.1 (performInTurn stage before) act.2.2 item

/-- Giving none of a rope that is held and taking more than there are leave nothing listed that is
not in stock. -/
theorem rope_given_and_taken_back :
    let place : Place := ⟨.blank "yard" 8 8, 0⟩
    let scope : Scope := ⟨"yard", none, "yard#1"⟩
    let stage : Stage := ⟨(World.blank ∅).giveItem "rope" 1, ∅⟩
    let acts : List (Place × Scope × Action) :=
      [.giveItem "rope" 0, .takeItem "rope" 5, .giveItem "rope" 4294967295, .giveItem "rope" 3].map
        fun action => (place, scope, action)
    stage.world.Stocked ∧
      (∀ before later, acts = before ++ later → (performInTurn stage before).world.Stocked) ∧
      (performInTurn stage acts).world.inventory.toList = [("rope", 4294967295)] := by
  intro place scope stage acts
  have hstart : stage.world.Stocked := by decide +kernel
  refine ⟨hstart, (stocked_iff_gives_some stage hstart acts).1.mpr ?_, by decide +kernel⟩
  intro before act later hsplit
  have hgifts : ∀ n < 4, ∀ act ∈ acts[n]?,
      ¬GivesNone (performInTurn stage (acts.take n)).world act.2.2 := by decide +kernel
  have hlength : before.length < 4 := by
    have hacts : acts.length = 4 := rfl
    have hparts := congrArg List.length hsplit
    simp only [List.length_append, List.length_cons] at hparts
    omega
  have hgift := hgifts before.length hlength act (by simp [hsplit])
  rwa [hsplit, List.take_left] at hgift

/-- A key of which none is given to somebody who has no key is listed, and yet he does not have
it. -/
theorem key_given_none_is_listed :
    let stage : Stage := ⟨World.blank ∅, ∅⟩
    let after := performInTurn stage ((Action.parseList "give_item=key__0").map fun action =>
      (⟨.blank "test_map" 16 16, 0⟩, ⟨"test", none, "test#1"⟩, action))
    stage.world.Stocked ∧ after.world.inventory.toList = [("key", 0)] ∧
      after.world.hasItem "key" = false :=
  ⟨by decide +kernel, by decide +kernel, by decide +kernel⟩

end Dispatch

end StoryEngine
