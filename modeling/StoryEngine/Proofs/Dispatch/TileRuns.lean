import StoryEngine.Proofs.Dispatch.Failure
import StoryEngine.Proofs.World.Changes
import StoryEngine.Proofs.World.Handles
import StoryEngine.Proofs.World.Tiles

/-! # Runs of tiles

A run of tiles that is spawned adds one actor of its kind on each of its tiles, under handles that
found nobody, and leaves everybody else as he was. To clear the same run takes away those again, and
nobody else unless somebody of the kind had stood there before.
-/

namespace StoryEngine

set_option autoImplicit false

open Text (sameName)

namespace Dispatch

variable {place : Place} {scope : Scope} {w v next : World} {kind : String}
  {tiles : List Position} {run : TileRun}

/-- The living are those from before, as they were, and one newcomer on each of some tiles. -/
structure Joins (kind : String) (tiles : List Position) (w next : World) : Prop where
  keeps : ∀ h a, w.actor? h = some a → next.actor? h = some a
  one : ∀ p ∈ tiles, ∃! h, w.actor? h = none ∧ next.actor? h = some (.arriving kind kind p)
  only : ∀ h a, next.actor? h = some a →
    w.actor? h = some a ∨ ∃ p ∈ tiles, a = .arriving kind kind p

theorem freeListed_spawnAt (hfree : w.actors.FreeListed) (kind : String) (p : Position) :
    (spawnAt kind w p).actors.FreeListed :=
  (hfree.arrival (.arriving kind kind p)).freeListed hfree

theorem actor?_spawnAt (hfree : w.actors.FreeListed) (kind : String) (p : Position) :
    ∃ h, w.actor? h = none ∧ ∀ k, (spawnAt kind w p).actor? k =
      if k = h then some (.arriving kind kind p) else w.actor? k :=
  have harrival := hfree.arrival (.arriving kind kind p)
  ⟨_, harrival.get?_self_before, harrival.get?_eq⟩

theorem arriving_inj {p q : Position} :
    Actor.arriving kind kind p = .arriving kind kind q ↔ p = q := by
  simp [Actor.arriving]

/-- One more tile in front, on which nobody of the others arrives. -/
theorem Joins.cons {h : Handle} {p : Position} (hnew : w.actor? h = none)
    (hv : ∀ k, v.actor? k = if k = h then some (.arriving kind kind p) else w.actor? k)
    (hjoins : Joins kind tiles v next) (hp : p ∉ tiles) : Joins kind (p :: tiles) w next := by
  have hself : v.actor? h = some (.arriving kind kind p) := (hv h).trans (if_pos rfl)
  have hother {k : Handle} (hk : k ≠ h) : v.actor? k = w.actor? k := (hv k).trans (if_neg hk)
  have hthere : next.actor? h = some (.arriving kind kind p) := hjoins.keeps h _ hself
  refine ⟨fun k a ha => ?_, fun q hq => ?_, fun k a ha => ?_⟩
  · have hk : k ≠ h := by
      rintro rfl
      cases hnew.symm.trans ha
    exact hjoins.keeps k a ((hother hk).trans ha)
  · rcases List.mem_cons.mp hq with rfl | hq
    · refine ⟨h, ⟨hnew, hthere⟩, ?_⟩
      rintro k ⟨hnone, hk⟩
      by_contra hne
      rcases hjoins.only k _ hk with hbefore | ⟨r, hr, heq⟩
      · cases hnone.symm.trans ((hother hne).symm.trans hbefore)
      · exact hp (arriving_inj.mp heq ▸ hr)
    · obtain ⟨k, ⟨hnone, hk⟩, honly⟩ := hjoins.one q hq
      have hne : k ≠ h := by
        rintro rfl
        cases hnone.symm.trans hself
      refine ⟨k, ⟨(hother hne).symm.trans hnone, hk⟩, ?_⟩
      rintro j ⟨hnone', hj⟩
      have hne' : j ≠ h := by
        rintro rfl
        rw [hthere, Option.some.injEq, arriving_inj] at hj
        exact hp (hj ▸ hq)
      exact honly j ⟨(hother hne').trans hnone', hj⟩
  · rcases hjoins.only k a ha with hbefore | ⟨q, hq, rfl⟩
    · by_cases hk : k = h
      · rw [hk, hself] at hbefore
        cases hbefore
        exact .inr ⟨p, List.mem_cons_self, rfl⟩
      · exact .inl ((hother hk).symm.trans hbefore)
    · exact .inr ⟨q, List.mem_cons_of_mem p hq, rfl⟩

theorem joins_spawnAll (hfree : w.actors.FreeListed) (kind : String) (hnodup : tiles.Nodup) :
    Joins kind tiles w (tiles.foldl (spawnAt kind) w) := by
  induction tiles generalizing w with
  | nil => exact ⟨fun _ _ ha => ha, nofun, fun _ _ ha => .inl ha⟩
  | cons p tiles ih =>
    obtain ⟨hp, hnodup⟩ := List.nodup_cons.mp hnodup
    obtain ⟨h, hnew, hv⟩ := actor?_spawnAt hfree kind p
    exact (ih (freeListed_spawnAt hfree kind p) hnodup).cons hnew hv hp

/-- If nobody of a kind stands on some tiles, to clear them of the kind takes away the newcomers and
nobody else. -/
theorem Joins.actor?_clear (hjoins : Joins kind tiles w next)
    (hnobody : ∀ h a, w.actor? h = some a → a.position ∈ tiles → sameName a.kind kind = false)
    (h : Handle) : (tiles.foldl (clearTile kind) next).actor? h = w.actor? h := by
  rw [Dispatch.actor?_clear]
  cases hbefore : w.actor? h with
  | some a =>
    have hstays : isCleared kind tiles a = false := by
      rw [isCleared, List.any_eq_false]
      intro p hp hgone
      rw [Bool.and_eq_true, beq_iff_eq] at hgone
      obtain ⟨rfl, hkind⟩ := hgone
      rw [hnobody h a hbefore hp] at hkind
      cases hkind
    rw [hjoins.keeps h a hbefore, Option.filter_some, hstays]
    rfl
  | none =>
    cases hafter : next.actor? h with
    | none => rfl
    | some a =>
      rcases hjoins.only h a hafter with hlives | ⟨p, hp, rfl⟩
      · cases hbefore.symm.trans hlives
      · have hgone : isCleared kind tiles (.arriving kind kind p) = true := by
          rw [isCleared, List.any_eq_true]
          exact ⟨p, hp, by simp [Actor.arriving]⟩
        rw [Option.filter_some, hgone]
        rfl

theorem spawn_eq_ok (hdone : spawn place scope w run = .ok next) :
    (∀ p ∈ run.tiles, place.map.inBounds p = true) ∧
      next = run.tiles.foldl (spawnAt run.kind) w := by
  unfold spawn at hdone
  split at hdone
  · cases hdone
  · next hstays =>
    cases hdone
    exact ⟨all_inBounds_of_runLeavesAt? hstays, rfl⟩

theorem clearTiles_eq_ok (place : Place) (scope : Scope) {direction : Direction} {n : Nat}
    {p : Position} (hin : ∀ q ∈ tilesFrom direction n p, place.map.inBounds q = true)
    (kind : String) (w : World) : clearTiles place scope kind direction n p w =
      ((tilesFrom direction n p).foldl (clearTile kind) w, .ok ()) := by
  induction n generalizing p w with
  | zero => rfl
  | succ n ih =>
    rw [clearTiles, if_pos (hin p List.mem_cons_self)]
    exact ih (fun q hq => hin q (List.mem_cons_of_mem p hq)) (clearTile kind w p)

/-- A run that is spawned adds exactly one actor of its kind on each of its tiles, which are as many
as it counts. If nobody of the kind stood there before, clearing the run succeeds, and the living
are those from before. -/
theorem spawn_then_clear (map : GridMap) (hmap : map.Fits) (stage : Stage)
    (requests : List Arena.Request) (hworld : stage.world.actors = (Arena.run requests).1)
    (run : TileRun) (scope other : Scope) (now later : Tick) {directive : Directive}
    (hdone : (perform ⟨map, now⟩ scope stage (.spawn run)).2 = .ok directive) :
    let spawned := (perform ⟨map, now⟩ scope stage (.spawn run)).1
    let cleared := perform ⟨map, later⟩ other spawned (.destroy (.tiles run))
    run.tiles = (List.range run.count).map (run.origin.ahead run.direction) ∧ run.tiles.Nodup ∧
      Joins run.kind run.tiles stage.world spawned.world ∧
      ((∀ h a, stage.world.actor? h = some a → a.position ∈ run.tiles →
          sameName a.kind run.kind = false) →
        cleared.2 = .ok .proceed ∧
          ∀ h, cleared.1.world.actor? h = stage.world.actor? h) := by
  intro spawned cleared
  have hfree : stage.world.actors.FreeListed := hworld ▸ Arena.freeListed_run requests
  cases hspawn : spawn ⟨map, now⟩ scope stage.world run with
  | error e =>
    rw [perform, hspawn] at hdone
    cases hdone
  | ok next =>
    have hspawned : spawned.world = next := by
      simp only [spawned, perform, hspawn]
      rfl
    obtain ⟨hin, rfl⟩ := spawn_eq_ok hspawn
    have hnodup : run.tiles.Nodup := hmap.nodup_tilesFrom hin
    have hjoins := joins_spawnAll hfree run.kind hnodup
    have hcleared : cleared = afterDestroy spawned (run.tiles.foldl (clearTile run.kind)
        (run.tiles.foldl (spawnAt run.kind) stage.world), .ok ()) := by
      simp only [cleared, perform, destroy, hspawned]
      rw [clearTiles_eq_ok ⟨map, later⟩ other hin]
      rfl
    rw [hspawned]
    refine ⟨hmap.tilesFrom_eq hin, hnodup, hjoins, fun hnobody => ?_⟩
    rw [hcleared]
    exact ⟨rfl, hjoins.actor?_clear hnobody⟩

/-- Rocks arrive around a guard, the first one in the slot that a crate has left, and are cleared
away again, while a rock elsewhere stays. -/
theorem rocks_around_guard_come_and_go :
    let map : GridMap := .blank "yard" 8 8
    let requests : List Arena.Request :=
      [.spawn (.arriving "guard" "npc" ⟨2, 1⟩), .spawn (.arriving "crate" "tile" ⟨5, 5⟩),
        .spawn (.arriving "old rock" "Rock" ⟨6, 6⟩), .despawn ⟨1, 0⟩]
    let stage : Stage := ⟨{ World.blank ∅ with actors := (Arena.run requests).1 }, ∅⟩
    let scope : Scope := ⟨"yard", none, "yard#1"⟩
    let run : TileRun := ⟨"rock", ⟨1, 1⟩, some (.east, 3)⟩
    let spawned := (perform ⟨map, 0⟩ scope stage (.spawn run)).1
    let cleared := perform ⟨map, 9⟩ scope spawned (.destroy (.tiles run))
    spawned.world.actors.toList.map (fun entry => (entry.1, entry.2.position)) =
        [(⟨0, 0⟩, ⟨2, 1⟩), (⟨1, 1⟩, ⟨1, 1⟩), (⟨2, 0⟩, ⟨6, 6⟩), (⟨3, 0⟩, ⟨2, 1⟩), (⟨4, 0⟩, ⟨3, 1⟩)] ∧
      Joins "rock" run.tiles stage.world spawned.world ∧ cleared.2 = .ok .proceed ∧
      ∀ h, cleared.1.world.actor? h = stage.world.actor? h := by
  intro map requests stage scope run spawned cleared
  have hnobody : stage.world.Every fun a =>
      a.position ∈ run.tiles → sameName a.kind run.kind = false := by decide +kernel
  have hdone : (perform ⟨map, 0⟩ scope stage (.spawn run)).2 = .ok .proceed := rfl
  obtain ⟨_, _, hjoins, hclears⟩ :=
    spawn_then_clear map ⟨by decide, by decide⟩ stage requests rfl run scope scope 0 9 hdone
  exact ⟨by decide +kernel, hjoins, hclears hnobody⟩

end Dispatch

end StoryEngine
