import StoryEngine.World.State

/-! # Looking up actors

What a handle finds after an actor has been changed, has left or has arrived. The lists of handles
that the arena gives out hold exactly the handles that find an actor.
-/

namespace StoryEngine

set_option autoImplicit false

theorem Handle.generation_ne {h k : Handle} (hindex : k.index = h.index) (hne : k ≠ h) :
    h.generation ≠ k.generation := by
  intro hgeneration
  cases h
  cases k
  cases hindex
  cases hgeneration
  exact hne rfl

namespace Arena

theorem get?_eq_some_iff {arena : Arena} {h : Handle} {actor : Actor} :
    arena.get? h = some actor ↔ arena.slots[h.index]? = some ⟨h.generation, some actor⟩ := by
  rw [get?, Option.bind_eq_some_iff]
  constructor
  · rintro ⟨⟨generation, held⟩, hslot, hactor⟩
    obtain ⟨rfl, rfl⟩ : generation = h.generation ∧ held = some actor := by
      simpa using hactor
    exact hslot
  · intro hslot
    exact ⟨_, hslot, if_pos rfl⟩

theorem mem_toList_iff {arena : Arena} {h : Handle} {actor : Actor} :
    (h, actor) ∈ arena.toList ↔ arena.get? h = some actor := by
  rw [get?_eq_some_iff, toList, List.mem_filterMap]
  constructor
  · rintro ⟨⟨⟨generation, held⟩, index⟩, hmem, hactor⟩
    obtain ⟨_, rfl, hentry⟩ := Option.map_eq_some_iff.mp hactor
    cases hentry
    rw [List.mem_zipIdx_iff_getElem?, Array.getElem?_toList] at hmem
    exact hmem
  · intro hslot
    refine ⟨(⟨h.generation, some actor⟩, h.index), ?_, rfl⟩
    rw [List.mem_zipIdx_iff_getElem?, Array.getElem?_toList]
    exact hslot

theorem mem_handlesWhere_iff {arena : Arena} {test : Actor → Bool} {h : Handle} :
    h ∈ arena.handlesWhere test ↔ ∃ actor, arena.get? h = some actor ∧ test actor = true := by
  rw [handlesWhere, List.mem_map]
  constructor
  · rintro ⟨⟨_, actor⟩, hmem, rfl⟩
    obtain ⟨hmem, htest⟩ := List.mem_filter.mp hmem
    exact ⟨actor, mem_toList_iff.mp hmem, htest⟩
  · rintro ⟨actor, hactor, htest⟩
    exact ⟨(h, actor), List.mem_filter.mpr ⟨mem_toList_iff.mpr hactor, htest⟩, rfl⟩

theorem get?_of_findByName? {arena : Arena} {name : String} {h : Handle}
    (hfound : arena.findByName? name = some h) :
    ∃ actor, arena.get? h = some actor ∧ Text.sameName actor.name name = true := by
  obtain ⟨⟨_, actor⟩, hentry, rfl⟩ := Option.map_eq_some_iff.mp hfound
  have hname := List.find?_some hentry
  exact ⟨actor, mem_toList_iff.mp (List.mem_of_find?_eq_some hentry), hname⟩

/-- The slot of a living actor is what all handles for that slot see. -/
theorem get?_replace {arena : Arena} {h : Handle} {actor : Actor}
    (hactor : arena.get? h = some actor) (slot : Slot) (free : List Nat) (k : Handle) :
    (Arena.mk (arena.slots.setIfInBounds h.index slot) free).get? k =
      if k.index = h.index then (if slot.generation = k.generation then slot.actor else none)
      else arena.get? k := by
  have hslot := get?_eq_some_iff.mp hactor
  have hlt : h.index < arena.slots.size := (Array.getElem?_eq_some_iff.mp hslot).1
  by_cases hk : k.index = h.index
  · simp only [get?, hk, Array.getElem?_setIfInBounds_self_of_lt hlt, Option.bind_some, if_true]
  · simp only [get?, Array.getElem?_setIfInBounds_ne (Ne.symm hk), hk, if_false]

theorem get?_of_index_eq {arena : Arena} {h k : Handle} {actor : Actor}
    (hactor : arena.get? h = some actor) (hindex : k.index = h.index) (hne : k ≠ h) :
    arena.get? k = none := by
  rw [get?, hindex, get?_eq_some_iff.mp hactor, Option.bind_some,
    if_neg (Handle.generation_ne hindex hne)]

theorem get?_modify (arena : Arena) (h : Handle) (change : Actor → Actor) (k : Handle) :
    (arena.modify h change).get? k =
      if k = h then (arena.get? h).map change else arena.get? k := by
  cases hactor : arena.get? h with
  | none =>
    by_cases hk : k = h
    · simp only [modify, hactor, hk, if_true, Option.map_none]
    · simp only [modify, hactor, hk, if_false]
  | some actor =>
    simp only [modify, hactor, get?_replace hactor]
    by_cases hk : k = h
    · simp only [hk, if_true, Option.map_some]
    · by_cases hindex : k.index = h.index
      · simp only [hindex, hk, if_true, if_false, Handle.generation_ne hindex hk,
          get?_of_index_eq hactor hindex hk]
      · simp only [hindex, hk, if_false]

theorem get?_despawn (arena : Arena) (h k : Handle) :
    (arena.despawn h).get? k = if k = h then none else arena.get? k := by
  cases hactor : arena.get? h with
  | none =>
    by_cases hk : k = h
    · simp [despawn, contains, hactor, hk]
    · simp [despawn, contains, hactor, hk]
  | some actor =>
    simp only [despawn, contains, hactor, Option.isSome_some, if_true, get?_replace hactor,
      ite_self]
    by_cases hk : k = h
    · simp only [hk, if_true]
    · by_cases hindex : k.index = h.index
      · simp only [hindex, hk, if_true, if_false, get?_of_index_eq hactor hindex hk]
      · simp only [hindex, hk, if_false]

/-- Whoever is found after an arrival has arrived or was there before. -/
theorem get?_spawn_cases {arena : Arena} {arrival actor : Actor} {k : Handle}
    (h : (arena.spawn arrival).2.get? k = some actor) :
    actor = arrival ∨ arena.get? k = some actor := by
  rw [get?_eq_some_iff] at h
  unfold spawn at h
  split at h
  · next index free hfree =>
    split at h
    · next slot hslot =>
      rw [Array.getElem?_setIfInBounds] at h
      split at h
      · split at h
        · obtain ⟨_, harrival⟩ := Slot.mk.inj (Option.some.inj h)
          exact .inl (Option.some.inj harrival).symm
        · cases h
      · exact .inr (get?_eq_some_iff.mpr h)
    · exact .inr (get?_eq_some_iff.mpr h)
  · rw [Array.getElem?_push] at h
    split at h
    · obtain ⟨_, harrival⟩ := Slot.mk.inj (Option.some.inj h)
      exact .inl (Option.some.inj harrival).symm
    · exact .inr (get?_eq_some_iff.mpr h)

end Arena

namespace World

theorem actor?_modifyActor (w : World) (h : Handle) (change : Actor → Actor) (k : Handle) :
    (w.modifyActor h change).actor? k =
      if k = h then (w.actor? h).map change else w.actor? k :=
  Arena.get?_modify w.actors h change k

theorem actor?_despawn (w : World) (h k : Handle) :
    (w.despawn h).actor? k = if k = h then none else w.actor? k :=
  Arena.get?_despawn w.actors h k

theorem actor?_spawn_cases {w : World} {arrival actor : Actor} {k : Handle}
    (h : (w.spawn arrival).2.actor? k = some actor) :
    actor = arrival ∨ w.actor? k = some actor :=
  Arena.get?_spawn_cases h

def Every (P : Actor → Prop) (w : World) : Prop := ∀ h actor, w.actor? h = some actor → P actor

section Every

variable {P : Actor → Prop} {w : World}

theorem every_iff_toList : w.Every P ↔ ∀ entry ∈ w.actors.toList, P entry.2 := by
  constructor
  · intro h entry hentry
    exact h entry.1 entry.2 (Arena.mem_toList_iff.mp hentry)
  · intro h k actor hactor
    exact h (k, actor) (Arena.mem_toList_iff.mpr hactor)

instance [DecidablePred P] : Decidable (w.Every P) := decidable_of_iff _ every_iff_toList.symm

theorem Every.of_actors_eq {next : World} (hw : w.Every P) (h : next.actors = w.actors) :
    next.Every P := by
  intro k actor hactor
  rw [actor?, h] at hactor
  exact hw k actor hactor

theorem Every.modify (hw : w.Every P) (h : Handle) {change : Actor → Actor}
    (hchange : ∀ actor, w.actor? h = some actor → P (change actor)) :
    (w.modifyActor h change).Every P := by
  intro k actor hactor
  rw [actor?_modifyActor] at hactor
  split at hactor
  · obtain ⟨before, hbefore, rfl⟩ := Option.map_eq_some_iff.mp hactor
    exact hchange before hbefore
  · exact hw k actor hactor

theorem Every.despawn (hw : w.Every P) (h : Handle) : (w.despawn h).Every P := by
  intro k actor hactor
  rw [actor?_despawn] at hactor
  split at hactor
  · cases hactor
  · exact hw k actor hactor

theorem Every.spawn (hw : w.Every P) {arrival : Actor} (harrival : P arrival) :
    (w.spawn arrival).2.Every P := by
  intro k actor hactor
  rcases actor?_spawn_cases hactor with rfl | hbefore
  · exact harrival
  · exact hw k actor hbefore

end Every

end World

end StoryEngine
