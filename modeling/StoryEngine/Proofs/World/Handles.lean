import Mathlib.Data.List.Induction
import Mathlib.Data.List.Nodup
import StoryEngine.Proofs.World.Actors

/-! # Handles are never used again

An arena is compared with the history of what was asked of it. A slot is at the generation that
counts who has left it, a handle that was given out is at that generation only while its actor
lives, and the free slots are the empty ones, each listed once. So every arrival gets a handle that
nobody had before, and the arena finds under every handle what the history leaves there. Generations
count in 32 bits, so this lasts as long as fewer actors than that leave any one slot.
-/

namespace StoryEngine

set_option autoImplicit false

namespace Arena

inductive Request where
  | spawn (actor : Actor)
  | despawn (h : Handle)
  | modify (h : Handle) (change : Actor → Actor)

/-- A request together with the handle that it was answered with. -/
inductive Event where
  | spawned (h : Handle) (actor : Actor)
  | despawned (h : Handle)
  | modified (h : Handle) (change : Actor → Actor)

def perform (arena : Arena) : Request → Arena × Event
  | .spawn actor => let (h, next) := arena.spawn actor; (next, .spawned h actor)
  | .despawn h => (arena.despawn h, .despawned h)
  | .modify h change => (arena.modify h change, .modified h change)

/-- The arena after a sequence of requests, and its history with the latest event first. -/
def run (requests : List Request) : Arena × List Event :=
  requests.foldl (fun (arena, history) request =>
    let (next, event) := arena.perform request
    (next, event :: history)) (∅, [])

def Event.issued? : Event → Option Handle
  | .spawned h _ => some h
  | _ => none

def issued (history : List Event) : List Handle := history.filterMap Event.issued?

/-- The actor that stands under a handle at the end of a history. -/
def standing (h : Handle) : List Event → Option Actor
  | [] => none
  | .spawned k actor :: earlier => if k = h then some actor else standing h earlier
  | .despawned k :: earlier => if k = h then none else standing h earlier
  | .modified k change :: earlier =>
    if k = h then (standing h earlier).map change else standing h earlier

/-- How many actors have left a slot. -/
def departures (index : Nat) : List Event → Nat
  | [] => 0
  | .despawned k :: earlier =>
    departures index earlier + if k.index = index ∧ (standing k earlier).isSome then 1 else 0
  | _ :: earlier => departures index earlier

theorem departures_le_cons (index : Nat) (event : Event) (history : List Event) :
    departures index history ≤ departures index (event :: history) := by
  cases event with
  | despawned k => exact Nat.le_add_right _ _
  | _ => exact Nat.le_refl _

theorem departures_le_length (index : Nat) (history : List Event) :
    departures index history ≤ history.length := by
  induction history with
  | nil => exact Nat.le_refl 0
  | cons event earlier ih =>
    cases event with
    | despawned k =>
      rw [departures, List.length_cons]
      split <;> omega
    | _ => exact Nat.le_succ_of_le ih

/-- What an event makes of the actor under a handle. -/
def Event.change (h : Handle) : Event → Actor → Actor
  | .modified k change, actor => if k = h then change actor else actor
  | _, actor => actor

section

variable {h : Handle} {later earlier : List Event}

theorem issued_append (later earlier : List Event) :
    issued (later ++ earlier) = issued later ++ issued earlier :=
  List.filterMap_append

/-- Where a handle is neither given out nor given up, its actor is only changed. -/
theorem standing_append (hissued : h ∉ issued later) (hstays : .despawned h ∉ later) :
    standing h (later ++ earlier) = (standing h earlier).map (later.foldr (Event.change h)) := by
  induction later with
  | nil => exact Option.map_id_apply.symm
  | cons event later ih =>
    have hlater : .despawned h ∉ later := fun hmem => hstays (List.mem_cons_of_mem _ hmem)
    cases event with
    | spawned k actor =>
      have hk : k ≠ h := Ne.symm (List.ne_of_not_mem_cons hissued)
      rw [List.cons_append, standing, if_neg hk, ih (List.not_mem_of_not_mem_cons hissued) hlater]
      rfl
    | despawned k =>
      have hk : k ≠ h := fun hk => hstays (hk ▸ List.mem_cons_self)
      rw [List.cons_append, standing, if_neg hk, ih hissued hlater]
      rfl
    | modified k change =>
      rw [List.cons_append, standing, ih hissued hlater, Option.map_map]
      by_cases hk : k = h
      · rw [if_pos hk]
        exact congrArg (Option.map · _) (funext fun actor => (if_pos hk).symm)
      · rw [if_neg hk]
        exact congrArg (Option.map · _) (funext fun actor => (if_neg hk).symm)

theorem standing_append_eq_none (hissued : h ∉ issued later) (hnone : standing h earlier = none) :
    standing h (later ++ earlier) = none := by
  induction later with
  | nil => exact hnone
  | cons event later ih =>
    cases event with
    | spawned k actor =>
      have hk : k ≠ h := Ne.symm (List.ne_of_not_mem_cons hissued)
      rw [List.cons_append, standing, if_neg hk, ih (List.not_mem_of_not_mem_cons hissued)]
    | despawned k => rw [List.cons_append, standing, ih hissued, ite_self]
    | modified k change => rw [List.cons_append, standing, ih hissued, Option.map_none, ite_self]

/-- The actor came with the handle, was changed to what it is now and has not left. -/
def StandsSince (h : Handle) (history : List Event) (actor : Actor) : Prop :=
  ∃ later arrived earlier, history = later ++ .spawned h arrived :: earlier ∧
    .despawned h ∉ later ∧ later.foldr (Event.change h) arrived = actor

theorem StandsSince.cons {history : List Event} {actor : Actor}
    (hstands : StandsSince h history actor) (event : Event) (hstays : .despawned h ≠ event) :
    StandsSince h (event :: history) (event.change h actor) := by
  obtain ⟨later, arrived, earlier, rfl, hlater, rfl⟩ := hstands
  exact ⟨event :: later, arrived, earlier, rfl,
    List.not_mem_cons_of_ne_of_not_mem hstays hlater, rfl⟩

theorem standing_eq_some_iff {history : List Event} (hnodup : (issued history).Nodup)
    {actor : Actor} : standing h history = some actor ↔ StandsSince h history actor := by
  constructor
  · intro hstanding
    clear hnodup
    induction history generalizing actor with
    | nil => cases hstanding
    | cons event history ih =>
      cases event with
      | spawned k arrived =>
        rw [standing] at hstanding
        split at hstanding
        · next hk =>
          cases hk
          cases hstanding
          exact ⟨[], actor, history, rfl, List.not_mem_nil, rfl⟩
        · exact (ih hstanding).cons _ nofun
      | despawned k =>
        rw [standing] at hstanding
        split at hstanding
        · cases hstanding
        · next hk => exact (ih hstanding).cons _ fun heq => hk (Event.despawned.inj heq).symm
      | modified k change =>
        rw [standing] at hstanding
        split at hstanding
        · next hk =>
          obtain ⟨before, hbefore, rfl⟩ := Option.map_eq_some_iff.mp hstanding
          have hstands := (ih hbefore).cons (.modified k change) nofun
          rwa [Event.change, if_pos hk] at hstands
        · next hk =>
          have hstands := (ih hstanding).cons (.modified k change) nofun
          rwa [Event.change, if_neg hk] at hstands
  · rintro ⟨later, arrived, earlier, rfl, hstays, rfl⟩
    rw [issued_append] at hnodup
    have hissued : h ∉ issued later :=
      fun hmem => (List.nodup_append.mp hnodup).2.2 h hmem h List.mem_cons_self rfl
    rw [standing_append hissued hstays, standing, if_pos rfl, Option.map_some]

end

def generationAt (arena : Arena) (index : Nat) : Nat :=
  (arena.slots[index]?.map (·.generation)).getD 0

/-- The free slots are the empty ones, each listed once. -/
structure FreeListed (arena : Arena) : Prop where
  nodup : arena.free.Nodup
  mem_iff : ∀ i, i ∈ arena.free ↔ ∃ generation, arena.slots[i]? = some ⟨generation, none⟩

/-- The slot of a handle was empty or not there, and now holds an actor. -/
structure Arrival (arena next : Arena) (h : Handle) (actor : Actor) : Prop where
  empty : ∀ slot, arena.slots[h.index]? = some slot → slot.actor = none
  generation : arena.generationAt h.index = h.generation
  slots : ∀ i, next.slots[i]? =
    if i = h.index then some ⟨h.generation, some actor⟩ else arena.slots[i]?
  nodup : next.free.Nodup
  mem_free_iff : ∀ i, i ∈ next.free ↔ i ∈ arena.free ∧ i ≠ h.index

variable {arena next : Arena} {h : Handle} {actor : Actor}

theorem slots_set (hlt : h.index < arena.slots.size) (slot : Slot) (i : Nat) :
    (arena.slots.setIfInBounds h.index slot)[i]? =
      if i = h.index then some slot else arena.slots[i]? := by
  by_cases hi : i = h.index
  · rw [hi, if_pos rfl, Array.getElem?_setIfInBounds_self_of_lt hlt]
  · rw [if_neg hi, Array.getElem?_setIfInBounds_ne (Ne.symm hi)]

theorem index_lt_of_get? (hactor : arena.get? h = some actor) : h.index < arena.slots.size :=
  (Array.getElem?_eq_some_iff.mp (get?_eq_some_iff.mp hactor)).1

theorem generationAt_of_get? (hactor : arena.get? h = some actor) :
    arena.generationAt h.index = h.generation := by
  rw [generationAt, get?_eq_some_iff.mp hactor, Option.map_some, Option.getD_some]

theorem FreeListed.arrival (hfree : arena.FreeListed) (actor : Actor) :
    Arrival arena (arena.spawn actor).2 (arena.spawn actor).1 actor := by
  unfold spawn
  split
  · next index free hlist =>
    obtain ⟨generation, hslot⟩ := (hfree.mem_iff index).mp (hlist ▸ List.mem_cons_self)
    have hlt : index < arena.slots.size := (Array.getElem?_eq_some_iff.mp hslot).1
    have hnodup := hfree.nodup
    rw [hlist, List.nodup_cons] at hnodup
    rw [hslot]
    refine ⟨fun slot h => ?_, ?_, slots_set (h := ⟨index, generation⟩) hlt _, hnodup.2, fun i => ?_⟩
    · cases hslot.symm.trans h
      rfl
    · rw [generationAt, hslot, Option.map_some, Option.getD_some]
    · rw [hlist, List.mem_cons]
      constructor
      · intro hi
        exact ⟨.inr hi, fun (hindex : i = index) => hnodup.1 (hindex ▸ hi)⟩
      · rintro ⟨hi | hi, hne⟩
        · exact absurd hi hne
        · exact hi
  · next hlist =>
    have hnone : arena.slots[arena.slots.size]? = none := Array.getElem?_size
    refine ⟨fun slot h => ?_, ?_, fun i => Array.getElem?_push, List.nodup_nil, fun i => ?_⟩
    · cases hnone.symm.trans h
    · rw [generationAt, hnone, Option.map_none, Option.getD_none]
    · rw [hlist]
      exact iff_of_false List.not_mem_nil fun h => List.not_mem_nil h.1

theorem Arrival.get?_self_before (harrival : Arrival arena next h actor) : arena.get? h = none := by
  cases hbefore : arena.get? h with
  | none => rfl
  | some other => cases harrival.empty _ (get?_eq_some_iff.mp hbefore)

theorem Arrival.get?_eq (harrival : Arrival arena next h actor) (k : Handle) :
    next.get? k = if k = h then some actor else arena.get? k := by
  by_cases hindex : k.index = h.index
  · by_cases hk : k = h
    · rw [if_pos hk, hk, get?_eq_some_iff, harrival.slots, if_pos rfl]
    · have hnew : next.get? h = some actor := by
        rw [get?_eq_some_iff, harrival.slots, if_pos rfl]
      rw [if_neg hk, get?_of_index_eq hnew hindex hk]
      cases hbefore : arena.get? k with
      | none => rfl
      | some other => cases harrival.empty _ (hindex ▸ get?_eq_some_iff.mp hbefore)
  · have hk : k ≠ h := fun hk => hindex (congrArg Handle.index hk)
    rw [if_neg hk, get?, harrival.slots, if_neg hindex, get?]

theorem Arrival.generationAt_eq (harrival : Arrival arena next h actor) (i : Nat) :
    next.generationAt i = arena.generationAt i := by
  by_cases hi : i = h.index
  · rw [hi, harrival.generation, generationAt, harrival.slots, if_pos rfl, Option.map_some,
      Option.getD_some]
  · rw [generationAt, harrival.slots, if_neg hi, generationAt]

theorem Arrival.freeListed (hfree : arena.FreeListed) (harrival : Arrival arena next h actor) :
    next.FreeListed := by
  refine ⟨harrival.nodup, fun i => ?_⟩
  rw [harrival.mem_free_iff, hfree.mem_iff, harrival.slots]
  by_cases hi : i = h.index
  · simp [hi]
  · simp [hi]

theorem despawn_of_get? (hactor : arena.get? h = some actor) :
    arena.despawn h = ⟨arena.slots.setIfInBounds h.index ⟨nextGeneration h.generation, none⟩,
      h.index :: arena.free⟩ := by
  simp only [despawn, contains, hactor, Option.isSome_some, if_true]

theorem despawn_of_get?_none (hnone : arena.get? h = none) : arena.despawn h = arena := by
  simp [despawn, contains, hnone]

theorem generationAt_despawn (hactor : arena.get? h = some actor) (i : Nat) :
    (arena.despawn h).generationAt i =
      if i = h.index then nextGeneration h.generation else arena.generationAt i := by
  rw [despawn_of_get? hactor, generationAt, slots_set (index_lt_of_get? hactor)]
  split <;> rfl

theorem FreeListed.despawn (hfree : arena.FreeListed) (h : Handle) :
    (arena.despawn h).FreeListed := by
  cases hactor : arena.get? h with
  | none => rwa [despawn_of_get?_none hactor]
  | some actor =>
    have hslot := get?_eq_some_iff.mp hactor
    rw [despawn_of_get? hactor]
    refine ⟨List.nodup_cons.mpr ⟨fun hmem => ?_, hfree.nodup⟩, fun i => ?_⟩
    · obtain ⟨generation, hempty⟩ := (hfree.mem_iff h.index).mp hmem
      cases hslot.symm.trans hempty
    · rw [List.mem_cons, hfree.mem_iff, slots_set (index_lt_of_get? hactor)]
      by_cases hi : i = h.index
      · simp [hi]
      · simp [hi]

theorem slots_modify (hactor : arena.get? h = some actor) (change : Actor → Actor) (i : Nat) :
    (arena.modify h change).slots[i]? =
      if i = h.index then some ⟨h.generation, some (change actor)⟩ else arena.slots[i]? := by
  simp only [modify, hactor]
  exact slots_set (index_lt_of_get? hactor) _ i

theorem modify_of_get?_none (hnone : arena.get? h = none) (change : Actor → Actor) :
    arena.modify h change = arena := by
  simp only [modify, hnone]

theorem modify_modify (arena : Arena) (h : Handle) (change later : Actor → Actor) :
    (arena.modify h change).modify h later = arena.modify h (later ∘ change) := by
  cases hactor : arena.get? h with
  | none => simp only [modify_of_get?_none hactor]
  | some actor =>
    have hchanged : (arena.modify h change).get? h = some (change actor) := by
      rw [get?_modify, if_pos rfl, hactor, Option.map_some]
    simp only [modify, hactor] at hchanged ⊢
    simp only [hchanged, Array.setIfInBounds_setIfInBounds, Function.comp]

theorem modify_congr {change other : Actor → Actor} (hactor : arena.get? h = some actor)
    (hsame : change actor = other actor) :
    arena.modify h change = arena.modify h other := by
  simp only [modify, hactor, hsame]

theorem generationAt_modify (arena : Arena) (h : Handle) (change : Actor → Actor) (i : Nat) :
    (arena.modify h change).generationAt i = arena.generationAt i := by
  cases hactor : arena.get? h with
  | none => rw [modify_of_get?_none hactor]
  | some actor =>
    rw [generationAt, slots_modify hactor]
    split
    · next hi => rw [hi, generationAt_of_get? hactor, Option.map_some, Option.getD_some]
    · rfl

theorem FreeListed.modify (hfree : arena.FreeListed) (h : Handle) (change : Actor → Actor) :
    (arena.modify h change).FreeListed := by
  cases hactor : arena.get? h with
  | none => rwa [modify_of_get?_none hactor]
  | some actor =>
    have hsame : (arena.modify h change).free = arena.free := by simp only [Arena.modify, hactor]
    refine ⟨hsame ▸ hfree.nodup, fun i => ?_⟩
    rw [hsame, hfree.mem_iff, slots_modify hactor]
    by_cases hi : i = h.index
    · simp [hi, get?_eq_some_iff.mp hactor]
    · simp [hi]

/-- An arena is as its history says. -/
structure Agrees (arena : Arena) (history : List Event) : Prop where
  free : arena.FreeListed
  generation : ∀ i, arena.generationAt i = departures i history
  found : ∀ h, arena.get? h = standing h history
  nodup : (issued history).Nodup
  /-- A handle is at the generation of its slot only while its actor lives. -/
  current : ∀ h ∈ issued history, h.generation ≤ arena.generationAt h.index ∧
    (h.generation = arena.generationAt h.index → (arena.get? h).isSome)

theorem agrees_empty : Agrees ∅ [] where
  free := ⟨List.nodup_nil, fun _ => iff_of_false List.not_mem_nil nofun⟩
  generation _ := rfl
  found _ := rfl
  nodup := List.nodup_nil
  current _ h := absurd h List.not_mem_nil

variable {history : List Event}

theorem Agrees.not_issued_of_empty (hagrees : Agrees arena history) (hnone : arena.get? h = none)
    (hcurrent : arena.generationAt h.index = h.generation) : h ∉ issued history := by
  intro hissued
  have hlives := (hagrees.current h hissued).2 hcurrent.symm
  rw [hnone] at hlives
  cases hlives

theorem Agrees.spawn (hagrees : Agrees arena history) (actor : Actor) :
    Agrees (arena.spawn actor).2 (.spawned (arena.spawn actor).1 actor :: history) := by
  have harrival := hagrees.free.arrival actor
  generalize (arena.spawn actor).1 = h at *
  generalize (arena.spawn actor).2 = next at *
  have hfresh : h ∉ issued history :=
    hagrees.not_issued_of_empty harrival.get?_self_before harrival.generation
  refine ⟨harrival.freeListed hagrees.free, fun i => ?_, fun k => ?_, ?_, fun k hk => ?_⟩
  · rw [harrival.generationAt_eq, hagrees.generation]
    rfl
  · rw [harrival.get?_eq, standing, hagrees.found]
    simp only [eq_comm]
  · exact List.nodup_cons.mpr ⟨hfresh, hagrees.nodup⟩
  · rw [harrival.generationAt_eq, harrival.get?_eq]
    rcases List.mem_cons.mp hk with rfl | hk
    · exact ⟨Nat.le_of_eq harrival.generation.symm, fun _ => by rw [if_pos rfl]; rfl⟩
    · rw [if_neg (ne_of_mem_of_not_mem hk hfresh)]
      exact hagrees.current k hk

theorem Agrees.despawn (hagrees : Agrees arena history) (h : Handle)
    (hfew : departures h.index (.despawned h :: history) < 0x100000000) :
    Agrees (arena.despawn h) (.despawned h :: history) := by
  cases hactor : arena.get? h with
  | none =>
    rw [despawn_of_get?_none hactor]
    have hstanding := (hagrees.found h).symm.trans hactor
    refine ⟨hagrees.free, fun i => ?_, fun k => ?_, hagrees.nodup, hagrees.current⟩
    · rw [departures, hstanding, hagrees.generation]
      simp
    · rw [standing, hagrees.found]
      split
      · next hk => rw [← hk, hstanding]
      · rfl
  | some actor =>
    have hlives : (standing h history).isSome := by
      rw [← hagrees.found, hactor]
      rfl
    -- The generation of the slot goes up by one, and not around.
    have hnext : nextGeneration h.generation = h.generation + 1 := by
      rw [departures, if_pos ⟨rfl, hlives⟩, ← hagrees.generation,
        generationAt_of_get? hactor] at hfew
      exact Nat.mod_eq_of_lt hfew
    refine ⟨hagrees.free.despawn h, fun i => ?_, fun k => ?_, hagrees.nodup, fun k hk => ?_⟩
    · rw [generationAt_despawn hactor, departures, ← hagrees.generation]
      by_cases hi : i = h.index
      · rw [if_pos hi, hi, if_pos ⟨rfl, hlives⟩, hnext, generationAt_of_get? hactor]
      · rw [if_neg hi, if_neg fun h => hi h.1.symm, Nat.add_zero]
    · rw [get?_despawn, standing, hagrees.found]
      simp only [eq_comm]
    · obtain ⟨hle, hlive⟩ := hagrees.current k hk
      rw [generationAt_despawn hactor, get?_despawn]
      by_cases hindex : k.index = h.index
      · rw [hindex, generationAt_of_get? hactor] at hle
        rw [if_pos hindex, hnext]
        exact ⟨by omega, by omega⟩
      · rw [if_neg hindex, if_neg fun h => hindex (congrArg Handle.index h)]
        exact ⟨hle, hlive⟩

theorem Agrees.modify (hagrees : Agrees arena history) (h : Handle) (change : Actor → Actor) :
    Agrees (arena.modify h change) (.modified h change :: history) := by
  refine ⟨hagrees.free.modify h change, fun i => ?_, fun k => ?_, hagrees.nodup, fun k hk => ?_⟩
  · rw [generationAt_modify, hagrees.generation]
    rfl
  · rw [get?_modify, standing]
    by_cases hk : k = h
    · rw [if_pos hk, if_pos hk.symm, hagrees.found, hk]
    · rw [if_neg hk, if_neg (Ne.symm hk), hagrees.found]
  · obtain ⟨hle, hlive⟩ := hagrees.current k hk
    rw [generationAt_modify, get?_modify]
    refine ⟨hle, fun hgeneration => ?_⟩
    split
    · next hk => rw [Option.isSome_map, ← hk, hlive hgeneration]
    · exact hlive hgeneration

theorem Agrees.perform (hagrees : Agrees arena history) (request : Request)
    (hfew : ∀ i, departures i ((arena.perform request).2 :: history) < 0x100000000) :
    Agrees (arena.perform request).1 ((arena.perform request).2 :: history) := by
  cases request with
  | spawn actor => exact hagrees.spawn actor
  | despawn h => exact hagrees.despawn h (hfew h.index)
  | modify h change => exact hagrees.modify h change

theorem run_snoc (requests : List Request) (request : Request) :
    run (requests ++ [request]) =
      (((run requests).1.perform request).1,
        ((run requests).1.perform request).2 :: (run requests).2) := by
  rw [run, List.foldl_append]
  rfl

theorem freeListed_run (requests : List Request) : (run requests).1.FreeListed := by
  induction requests using List.reverseRecOn with
  | nil => exact agrees_empty.free
  | append_singleton requests request ih =>
    rw [run_snoc]
    cases request with
    | spawn actor => exact (ih.arrival actor).freeListed ih
    | despawn h => exact ih.despawn h
    | modify h change => exact ih.modify h change

theorem run_agrees (requests : List Request)
    (hfew : ∀ i, departures i (run requests).2 < 0x100000000) :
    Agrees (run requests).1 (run requests).2 := by
  induction requests using List.reverseRecOn with
  | nil => exact agrees_empty
  | append_singleton requests request ih =>
    rw [run_snoc] at hfew ⊢
    exact (ih fun i => Nat.lt_of_le_of_lt (departures_le_cons i _ _) (hfew i)).perform request hfew

/-- The arena after some requests. -/
def serve (arena : Arena) (requests : List Request) : Arena :=
  requests.foldl (fun arena request => (arena.perform request).1) arena

theorem serve_append (arena : Arena) (requests more : List Request) :
    arena.serve (requests ++ more) = (arena.serve requests).serve more :=
  List.foldl_append

theorem run_append (requests more : List Request) :
    (run (requests ++ more)).1 = (run requests).1.serve more ∧
      ∃ since, (run (requests ++ more)).2 = since ++ (run requests).2 := by
  induction more using List.reverseRecOn with
  | nil =>
    rw [List.append_nil]
    exact ⟨rfl, [], rfl⟩
  | append_singleton more request ih =>
    obtain ⟨harena, since, hsince⟩ := ih
    rw [← List.append_assoc, run_snoc, serve_append, harena, hsince]
    exact ⟨rfl, _ :: since, rfl⟩

theorem departures_le_append (index : Nat) (later earlier : List Event) :
    departures index earlier ≤ departures index (later ++ earlier) := by
  induction later with
  | nil => exact Nat.le_refl _
  | cons event later ih => exact Nat.le_trans ih (departures_le_cons index event _)

theorem mem_issued_of_standing (hstanding : standing h history = some actor) :
    h ∈ issued history := by
  by_contra hissued
  have hnone : standing h (history ++ []) = none := standing_append_eq_none hissued rfl
  rw [List.append_nil] at hnone
  cases hnone.symm.trans hstanding

/-- An actor leaves the arena, or stands under its handle as it has been changed since. -/
theorem get?_run_append {requests more : List Request}
    (hfew : ∀ i, departures i (run (requests ++ more)).2 < 0x100000000)
    (hactor : (run requests).1.get? h = some actor) :
    ∃ since, (run (requests ++ more)).2 = since ++ (run requests).2 ∧
      (.despawned h ∈ since ∧ (run (requests ++ more)).1.get? h = none ∨
        .despawned h ∉ since ∧
          (run (requests ++ more)).1.get? h = some (since.foldr (Event.change h) actor)) := by
  obtain ⟨_, since, hsince⟩ := run_append requests more
  have hlater := run_agrees (requests ++ more) hfew
  have hearlier := run_agrees requests fun i =>
    Nat.lt_of_le_of_lt (hsince ▸ departures_le_append i since _) (hfew i)
  have hstanding : standing h (run requests).2 = some actor := by
    rw [← hearlier.found, hactor]
  have hissued : h ∉ issued since := by
    have hnodup := hlater.nodup
    rw [hsince, issued_append] at hnodup
    exact fun hmem =>
      (List.nodup_append.mp hnodup).2.2 h hmem h (mem_issued_of_standing hstanding) rfl
  refine ⟨since, hsince, ?_⟩
  rw [hlater.found, hsince]
  by_cases hleft : .despawned h ∈ since
  · refine .inl ⟨hleft, ?_⟩
    obtain ⟨later, earlier, rfl⟩ := List.append_of_mem hleft
    rw [issued_append] at hissued
    rw [List.append_assoc]
    exact standing_append_eq_none (fun hmem => hissued (List.mem_append_left _ hmem)) (if_pos rfl)
  · refine .inr ⟨hleft, ?_⟩
    rw [standing_append hissued hleft, hstanding, Option.map_some]

theorem ascending_handles (arena : Arena) :
    (arena.toList.map (·.1)).Pairwise fun h k => h.index < k.index := by
  rw [List.pairwise_map, toList, List.pairwise_filterMap]
  have hplaces : (arena.slots.toList.zipIdx.map Prod.snd).Pairwise (· < ·) := by
    rw [List.zipIdx_map_snd]
    exact List.pairwise_lt_range'
  refine (List.pairwise_map.mp hplaces).imp ?_
  rintro ⟨slot, i⟩ ⟨slot', j⟩ hlt b hb b' hb'
  obtain ⟨_, _, rfl⟩ := Option.map_eq_some_iff.mp hb
  obtain ⟨_, _, rfl⟩ := Option.map_eq_some_iff.mp hb'
  exact hlt

theorem nodup_handles (arena : Arena) : (arena.toList.map (·.1)).Nodup :=
  arena.ascending_handles.imp fun hlt heq => Nat.ne_of_lt hlt (congrArg Handle.index heq)

theorem nodup_handlesWhere (arena : Arena) (test : Actor → Bool) :
    (arena.handlesWhere test).Nodup :=
  arena.nodup_handles.sublist (List.filter_sublist.map _)

/-- If exactly one actor passes a test, its handle is the only one listed. -/
theorem handlesWhere_eq_singleton {test : Actor → Bool}
    (htest : ∃ actor, arena.get? h = some actor ∧ test actor = true)
    (honly : ∀ k actor, arena.get? k = some actor → test actor = true → k = h) :
    arena.handlesWhere test = [h] := by
  have hnodup := arena.nodup_handlesWhere test
  have hmem : h ∈ arena.handlesWhere test := mem_handlesWhere_iff.mpr htest
  have hall : ∀ k ∈ arena.handlesWhere test, k = h := by
    intro k hk
    obtain ⟨actor, hactor, hpass⟩ := mem_handlesWhere_iff.mp hk
    exact honly k actor hactor hpass
  by_contra hne
  rcases (hnodup.ne_singleton_iff h).mp hne with hnil | ⟨k, hk, hother⟩
  · rw [hnil] at hmem
    cases hmem
  · exact hother (hall k hk)

/-- The actor that came with the handle has left. -/
def Stale (h : Handle) (history : List Event) : Prop :=
  ∃ later earlier, history = later ++ .despawned h :: earlier ∧ h ∈ issued earlier

/-- As long as fewer than `2 ^ 32` actors leave any one slot, no handle is given out twice, a handle
finds the actor that came with it until that one leaves, a stale handle does nothing, and the
living are listed once each. -/
theorem handles_never_reused (requests : List Request)
    (hfew : ∀ i, departures i (run requests).2 < 0x100000000) :
    (issued (run requests).2).Nodup ∧
      (∀ h actor, (run requests).1.get? h = some actor ↔ StandsSince h (run requests).2 actor) ∧
      (∀ h, Stale h (run requests).2 → (run requests).1.despawn h = (run requests).1) ∧
      ((run requests).1.toList.map (·.1)).Nodup ∧
      ∀ h actor, (h, actor) ∈ (run requests).1.toList ↔ StandsSince h (run requests).2 actor := by
  have hagrees := run_agrees requests hfew
  have hfound (h : Handle) (actor : Actor) :
      (run requests).1.get? h = some actor ↔ StandsSince h (run requests).2 actor := by
    rw [hagrees.found, standing_eq_some_iff hagrees.nodup]
  refine ⟨hagrees.nodup, hfound, fun h hstale => ?_, nodup_handles _, fun h actor => ?_⟩
  · obtain ⟨later, earlier, hhistory, hissued⟩ := hstale
    have hnodup := hagrees.nodup
    rw [hhistory, issued_append] at hnodup
    have hlater : h ∉ issued later :=
      fun hmem => (List.nodup_append.mp hnodup).2.2 h hmem h hissued rfl
    refine despawn_of_get?_none ?_
    rw [hagrees.found, hhistory]
    exact standing_append_eq_none hlater (if_pos rfl)
  · rw [mem_toList_iff, hfound]

/-- The crate takes the slot of the guard under a handle of its own, and asking for the guard to
leave once more does not touch it. -/
theorem crate_in_the_slot_of_the_guard :
    let guard : Actor := .arriving "guard" "npc" ⟨1, 1⟩
    let crate : Actor := .arriving "crate" "prop" ⟨2, 2⟩
    let requests : List Request := [.spawn guard, .despawn ⟨0, 0⟩, .spawn crate, .despawn ⟨0, 0⟩,
      .modify ⟨0, 1⟩ fun a => { a with position := ⟨3, 3⟩ }]
    (∀ i, departures i (run requests).2 < 0x100000000) ∧
      (run requests).1.toList = [(⟨0, 1⟩, { crate with position := ⟨3, 3⟩ })] ∧
      StandsSince ⟨0, 1⟩ (run requests).2 { crate with position := ⟨3, 3⟩ } ∧
      (run requests).1.despawn ⟨0, 0⟩ = (run requests).1 := by
  intro guard crate requests
  have hfew : ∀ i, departures i (run requests).2 < 0x100000000 :=
    fun i => Nat.lt_of_le_of_lt (departures_le_length i _) (by decide : 5 < 0x100000000)
  obtain ⟨_, _, hstale, _, hlisted⟩ := handles_never_reused requests hfew
  have hlist : (run requests).1.toList = [(⟨0, 1⟩, { crate with position := ⟨3, 3⟩ })] := by
    decide +kernel
  have hlives := hlisted ⟨0, 1⟩ { crate with position := ⟨3, 3⟩ }
  rw [hlist] at hlives
  have hleft : Stale ⟨0, 0⟩ (run requests).2 :=
    ⟨_, [.spawned ⟨0, 0⟩ guard], (rfl : _ = [_, _, _] ++ _), List.mem_singleton_self _⟩
  exact ⟨hfew, hlist, hlives.mp (List.mem_singleton_self _), hstale _ hleft⟩

end Arena

end StoryEngine
