import StoryEngine.Proofs.World.Actors
import StoryEngine.Script.Dispatch

/-! # Actions that fail

Every action checks what it needs before it changes anything, except that a run of tiles is cleared
tile by tile until one of them is off the map. That is the one way for an action that fails to leave
a trace, and the statements here say exactly when it does.
-/

namespace StoryEngine

set_option autoImplicit false

open Text (sameName)

namespace Dispatch

/-- Whether an actor goes when some tiles are cleared of a kind. -/
def isCleared (kind : String) (tiles : List Position) (actor : Actor) : Bool :=
  tiles.any fun p => actor.position == p && sameName actor.kind kind

theorem isCleared_cons (kind : String) (p : Position) (tiles : List Position) (actor : Actor) :
    isCleared kind (p :: tiles) actor =
      (actor.position == p && sameName actor.kind kind || isCleared kind tiles actor) :=
  List.any_cons

theorem actor?_despawnAll (w : World) (handles : List Handle) (k : Handle) :
    (despawnAll w handles).actor? k = if k ∈ handles then none else w.actor? k := by
  induction handles generalizing w with
  | nil => rfl
  | cons h rest ih =>
    rw [despawnAll, List.foldl_cons, ← despawnAll, ih, World.actor?_despawn]
    by_cases hk : k = h
    · simp [hk]
    · simp [hk]

theorem actor?_clearTile (kind : String) (w : World) (p : Position) (k : Handle) :
    (clearTile kind w p).actor? k =
      (w.actor? k).filter fun a => !(a.position == p && sameName a.kind kind) := by
  simp only [clearTile, actor?_despawnAll, Arena.mem_handlesWhere_iff]
  cases hactor : w.actor? k with
  | none => simp only [Option.filter_none, ite_self]
  | some actor =>
    have hfound : w.actors.get? k = some actor := hactor
    simp only [hfound, Option.some.injEq, exists_eq_left', Option.filter_some]
    cases actor.position == p && sameName actor.kind kind <;> rfl

theorem actor?_clear (kind : String) (tiles : List Position) (w : World) (k : Handle) :
    (tiles.foldl (clearTile kind) w).actor? k =
      (w.actor? k).filter fun a => !isCleared kind tiles a := by
  induction tiles generalizing w with
  | nil =>
    rw [List.foldl_nil]
    cases w.actor? k <;> rfl
  | cons p tiles ih =>
    simp only [List.foldl_cons, ih, actor?_clearTile, Option.filter_filter, isCleared_cons,
      Bool.not_or, Bool.and_comm]

theorem clearTile_eq_self {kind : String} {w : World} {p : Position}
    (h : ∀ entry ∈ w.actors.toList,
      (entry.2.position == p && sameName entry.2.kind kind) = false) :
    clearTile kind w p = w := by
  have hnone : (w.actors.handlesWhere fun a => a.position == p && sameName a.kind kind) = [] := by
    rw [List.eq_nil_iff_forall_not_mem]
    intro k hk
    obtain ⟨actor, hactor, htest⟩ := Arena.mem_handlesWhere_iff.mp hk
    have hstays := h (k, actor) (Arena.mem_toList_iff.mpr hactor)
    rw [htest] at hstays
    cases hstays
  rw [clearTile, hnone]
  rfl

/-- Clearing tiles changes nothing exactly if nobody of the kind stands on them. -/
theorem clear_eq_self_iff (kind : String) (tiles : List Position) (w : World) :
    tiles.foldl (clearTile kind) w = w ↔
      ∀ entry ∈ w.actors.toList, isCleared kind tiles entry.2 = false := by
  constructor
  · rintro hsame ⟨k, actor⟩ hentry
    have hactor : w.actor? k = some actor := Arena.mem_toList_iff.mp hentry
    have hstays := actor?_clear kind tiles w k
    rw [hsame, hactor, eq_comm, Option.filter_eq_some_iff] at hstays
    simpa using hstays.2
  · intro h
    induction tiles with
    | nil => rfl
    | cons p tiles ih =>
      simp only [isCleared_cons kind p tiles, Bool.or_eq_false_iff] at h
      rw [List.foldl_cons, clearTile_eq_self fun entry hentry => (h entry hentry).1]
      exact ih fun entry hentry => (h entry hentry).2

/-- A run is cleared as far as it stays on the map. -/
theorem clearTiles_fst (place : Place) (scope : Scope) (kind : String) (direction : Direction)
    (n : Nat) (p : Position) (w : World) :
    (clearTiles place scope kind direction n p w).1 =
      ((tilesFrom direction n p).takeWhile place.map.inBounds).foldl (clearTile kind) w := by
  induction n generalizing p w with
  | zero => rfl
  | succ n ih =>
    rw [clearTiles, tilesFrom, List.takeWhile_cons]
    cases place.map.inBounds p with
    | true => exact ih (p.step direction) (clearTile kind w p)
    | false => rfl

variable {place : Place} {scope : Scope} {stage : Stage} {action : Action} {e : ScriptError}

theorem attempt_error {result : Except ScriptError World}
    (h : (attempt stage result).2 = .error e) : (attempt stage result).1 = stage := by
  cases result with
  | error _ => rfl
  | ok w => cases h

theorem afterWalk_error {result : Except ScriptError (Handle × World)}
    (h : (afterWalk stage result).2 = .error e) : (afterWalk stage result).1 = stage := by
  cases result with
  | error _ => rfl
  | ok walked => cases h

theorem destroyNamed_error {name : String}
    (h : (afterDestroy stage (destroy place scope stage.world (.named name))).2 = .error e) :
    (afterDestroy stage (destroy place scope stage.world (.named name))).1 = stage := by
  simp only [destroy] at h ⊢
  cases hdone : destroyNamed place scope stage.world name with
  | error _ => rfl
  | ok w =>
    rw [hdone] at h
    cases h

/-- The action clears tiles, and somebody goes before a tile off the map is met. -/
def losesActors (map : GridMap) (w : World) : Action → Bool
  | .destroy (.tiles run) => w.actors.toList.any fun entry =>
      isCleared run.kind (run.tiles.takeWhile map.inBounds) entry.2
  | _ => false

/-- An action that fails leaves world and timers as they were exactly if it takes no actor away. -/
theorem perform_error_unchanged_iff (h : (perform place scope stage action).2 = .error e) :
    (perform place scope stage action).1 = stage ↔
      losesActors place.map stage.world action = false := by
  cases action with
  | destroy target =>
    cases target with
    | named name => exact iff_of_true (destroyNamed_error h) rfl
    | tiles run =>
      -- The tiles in front of the first one off the map have been cleared when the run fails.
      have hstage : (perform place scope stage (.destroy (.tiles run))).1 = { stage with
          world := (run.tiles.takeWhile place.map.inBounds).foldl (clearTile run.kind)
            stage.world } := by
        rw [TileRun.tiles, ← clearTiles_fst place scope]
        rfl
      have hworld : (perform place scope stage (.destroy (.tiles run))).1 = stage ↔
          (run.tiles.takeWhile place.map.inBounds).foldl (clearTile run.kind) stage.world =
            stage.world := by
        rw [hstage]
        exact ⟨congrArg Stage.world, fun hsame => by rw [hsame]⟩
      rw [hworld, clear_eq_self_iff, losesActors, List.any_eq_false]
      simp only [Bool.not_eq_true]
  | walk => exact iff_of_true (afterWalk_error h) rfl
  | warp | spawn | standIn | standInEnd | setArg | startQuest | finishQuest | startStep
  | finishStep | revealHint | face => exact iff_of_true (attempt_error h) rfl
  | text line awaitInput => cases awaitInput <;> cases h
  | _ => cases h

/-- Trees on the tiles and a rock beyond them are left alone by the clearing that fails. -/
theorem failed_clearing_keeps_others :
    let place : Place := ⟨.blank "test_map" 16 16, 0⟩
    let grove := ((World.blank ∅).spawn (.arriving "tree" "tree" ⟨1, 0⟩)).2
    let stage : Stage := ⟨(grove.spawn (.arriving "rock" "rock" ⟨2, 0⟩)).2, ∅⟩
    let clearing : Action := .destroy (.tiles ⟨"rock", ⟨1, 0⟩, some (.west, 3)⟩)
    (perform place ⟨"test", none, "test#1"⟩ stage clearing).2 =
        .error (.outOfBounds "rock" ⟨-1, 0⟩ "test" "test_map") ∧
      (perform place ⟨"test", none, "test#1"⟩ stage clearing).1 = stage := by
  intro place grove stage clearing
  have hfails : (perform place ⟨"test", none, "test#1"⟩ stage clearing).2 =
      .error (.outOfBounds "rock" ⟨-1, 0⟩ "test" "test_map") := rfl
  exact ⟨hfails, (perform_error_unchanged_iff hfails).mpr (by decide +kernel)⟩

/-- A rock is gone although the run of tiles that held it leads off the map. -/
theorem failed_clearing_takes_rock :
    let place : Place := ⟨.blank "test_map" 16 16, 0⟩
    let stage : Stage := ⟨((World.blank ∅).spawn (.arriving "rock" "rock" ⟨1, 0⟩)).2, ∅⟩
    let after := perform place ⟨"test", none, "test#1"⟩ stage
      (.destroy (.tiles ⟨"rock", ⟨1, 0⟩, some (.west, 3)⟩))
    after.2 = .error (.outOfBounds "rock" ⟨-1, 0⟩ "test" "test_map") ∧
      stage.world.actors.size = 1 ∧ after.1.world.actors.size = 0 :=
  ⟨rfl, by decide +kernel, by decide +kernel⟩

end Dispatch

end StoryEngine
