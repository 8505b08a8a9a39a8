import Mathlib.Logic.Relation
import StoryEngine.Proofs.Result
import StoryEngine.Proofs.World.Actors
import StoryEngine.Script.Dispatch
import StoryEngine.World.Walkers

/-! # The small changes of a world

Whatever an action or a round of walkers does to the actors is a chain of small changes, and what
holds of all actors is proved of one change at a time. An actor that comes back from behind its
stand-in is the one thing left out: it is put on another tile without being stopped.
-/

namespace StoryEngine

set_option autoImplicit false

open Relation (ReflTransGen)

namespace World

/-- One small change of the actors on a map. -/
inductive Change (map : GridMap) : World → World → Prop where
  | others {w next : World} (h : next.actors = w.actors) : Change map w next
  | arrive {w : World} (name kind : String) {p : Position} (facing : Direction)
      (hp : map.inBounds p = true) :
      Change map w (w.spawn { Actor.arriving name kind p with facing }).2
  | double {w : World} {h : Handle} {actor : Actor} (name kind : String) {p : Position}
      (facing : Direction) (hactor : w.actor? h = some actor) (hp : actor.position = p) :
      Change map w (w.spawn { Actor.arriving name kind p with facing }).2
  | leave {w : World} (h : Handle) : Change map w (w.despawn h)
  | adjust {w : World} (h : Handle) {change : Actor → Actor}
      (hkeeps : ∀ a, (change a).position = a.position ∧ (change a).path = a.path) :
      Change map w (w.modifyActor h change)
  | put {w : World} (h : Handle) {p : Position} (hp : map.inBounds p = true) :
      Change map w (w.modifyActor h fun a => { a with position := p, path := [] })
  | sendOff {w : World} {h : Handle} {actor : Actor} {path : List Direction}
      (hactor : w.actor? h = some actor)
      (hpath : Dispatch.leavesAt? map actor.position path = none) :
      Change map w (w.modifyActor h fun a => { a with path })
  | stride {w : World} {h : Handle} {actor : Actor} {direction : Direction}
      {path : List Direction} (hactor : w.actor? h = some actor)
      (hpath : actor.path = direction :: path)
      (hp : map.inBounds (actor.position.step direction) = true) :
      Change map w
        (w.modifyActor h (stepAlong (actor.position.step direction) direction))

abbrev Changes (map : GridMap) : World → World → Prop := ReflTransGen (Change map)

theorem Changes.keeps {map : GridMap} {P : World → Prop} {w next : World} (h : Changes map w next)
    (hchange : ∀ {w next : World}, Change map w next → P w → P next) (hp : P w) : P next := by
  induction h with
  | refl => exact hp
  | tail _ h ih => exact hchange h ih

theorem actors_takeItem (w : World) (item : String) (count : Nat) :
    (w.takeItem item count).actors = w.actors := by
  unfold takeItem
  split
  · split <;> rfl
  · rfl

theorem actors_joinParty (w : World) (name : String) : (w.joinParty name).actors = w.actors := by
  unfold joinParty
  split <;> rfl

end World

namespace Dispatch

open World (Change Changes)

variable {place : Place} {scope : Scope} {w next : World}

theorem actor?_of_resolve {ref : ActorRef} {h : Handle} {actor : Actor}
    (hfound : resolve place scope w ref = .ok (h, actor)) : w.actor? h = some actor := by
  have hbind {given : Option Handle}
      (hgiven : (given.bind fun h => (w.actor? h).map fun a => (h, a)) = some (h, actor)) :
      w.actor? h = some actor := by
    obtain ⟨k, _, hk⟩ := Option.bind_eq_some_iff.mp hgiven
    obtain ⟨_, hactor, hpair⟩ := Option.map_eq_some_iff.mp hk
    cases hpair
    exact hactor
  cases ref with
  | master =>
    simp only [resolve] at hfound
    split at hfound
    · next hgiven =>
      cases hfound
      exact hbind hgiven
    · cases hfound
  | named name =>
    simp only [resolve] at hfound
    split at hfound
    · next hgiven =>
      cases hfound
      exact hbind hgiven
    · cases hfound

theorem ensureInBounds_eq_ok_iff {name : String} {p : Position} {u : Unit} :
    ensureInBounds place scope name p = .ok u ↔ place.map.inBounds p = true := by
  unfold ensureInBounds
  split
  · next h => exact iff_of_true rfl h
  · next h => exact iff_of_false nofun h

theorem walk_change {ref : ActorRef} {path : List Direction} {h : Handle}
    (hdone : walk place scope w ref path = .ok (h, next)) : Change place.map w next := by
  obtain ⟨⟨k, actor⟩, hfound, hdone⟩ := bind_eq_ok_iff.mp hdone
  simp only at hdone
  split at hdone
  · cases hdone
  · next hstays =>
    cases hdone
    exact .sendOff (actor?_of_resolve hfound) hstays

theorem warp_change {ref target : ActorRef} (hdone : warp place scope w ref target = .ok next) :
    Change place.map w next := by
  obtain ⟨⟨k, actor⟩, _, hdone⟩ := bind_eq_ok_iff.mp hdone
  obtain ⟨⟨_, goal⟩, _, hdone⟩ := bind_eq_ok_iff.mp hdone
  obtain ⟨_, hin, hdone⟩ := bind_eq_ok_iff.mp hdone
  cases hdone
  exact .put k (ensureInBounds_eq_ok_iff.mp hin)

theorem face_change {ref : ActorRef} {direction : Direction}
    (hdone : face place scope w ref direction = .ok next) : Change place.map w next := by
  obtain ⟨⟨k, actor⟩, _, hdone⟩ := bind_eq_ok_iff.mp hdone
  cases hdone
  exact .adjust k fun _ => ⟨rfl, rfl⟩

theorem setArg_change {ref : ActorRef} {key : String} {update : ArgUpdate}
    (hdone : setArg place scope w ref key update = .ok next) : Change place.map w next := by
  obtain ⟨⟨k, actor⟩, _, hdone⟩ := bind_eq_ok_iff.mp hdone
  obtain ⟨_, _, hdone⟩ := bind_eq_ok_iff.mp hdone
  cases hdone
  exact .adjust k fun _ => ⟨rfl, rfl⟩

theorem all_inBounds_of_runLeavesAt? {map : GridMap} {direction : Direction} {n : Nat}
    {p : Position} (h : runLeavesAt? map direction n p = none) :
    ∀ q ∈ tilesFrom direction n p, map.inBounds q = true := by
  induction n generalizing p with
  | zero => exact fun q hq => absurd hq List.not_mem_nil
  | succ n ih =>
    rw [runLeavesAt?] at h
    split at h
    · next hin =>
      intro q hq
      rcases List.mem_cons.mp hq with rfl | hq
      · exact hin
      · exact ih h q hq
    · cases h

theorem spawnAll_changes {map : GridMap} (kind : String) {tiles : List Position}
    (hin : ∀ p ∈ tiles, map.inBounds p = true) (w : World) :
    Changes map w (tiles.foldl (spawnAt kind) w) := by
  induction tiles generalizing w with
  | nil => exact .refl
  | cons p tiles ih =>
    have hp := hin p List.mem_cons_self
    exact .head (.arrive kind kind .south hp)
      (ih (fun q hq => hin q (List.mem_cons_of_mem p hq)) (spawnAt kind w p))

theorem spawn_changes {run : TileRun} (hdone : spawn place scope w run = .ok next) :
    Changes place.map w next := by
  unfold spawn at hdone
  split at hdone
  · cases hdone
  · next hstays =>
    cases hdone
    exact spawnAll_changes run.kind (all_inBounds_of_runLeavesAt? hstays) w

theorem despawnAll_changes (map : GridMap) (handles : List Handle) (w : World) :
    Changes map w (despawnAll w handles) := by
  induction handles generalizing w with
  | nil => exact .refl
  | cons h rest ih => exact .head (.leave h) (ih (w.despawn h))

theorem clearTiles_changes (kind : String) (direction : Direction) (n : Nat) (p : Position)
    (w : World) :
    Changes place.map w (clearTiles place scope kind direction n p w).1 := by
  induction n generalizing p w with
  | zero => exact .refl
  | succ n ih =>
    rw [clearTiles]
    split
    · exact (despawnAll_changes place.map _ w).trans (ih _ _)
    · exact .refl

theorem destroy_changes (target : DestroyTarget) :
    Changes place.map w (destroy place scope w target).1 := by
  cases target with
  | tiles run => exact clearTiles_changes run.kind run.direction run.count run.origin w
  | named name =>
    simp only [destroy]
    cases hdone : destroyNamed place scope w name with
    | error e => exact .refl
    | ok next =>
      unfold destroyNamed at hdone
      split at hdone
      · split at hdone
        · cases hdone
          exact .single (.leave _)
        · cases hdone
      · cases hdone
        exact despawnAll_changes place.map _ w

theorem standIn_changes {ref : ActorRef} (hdone : standIn place scope w ref = .ok next) :
    Changes place.map w next := by
  obtain ⟨⟨k, actor⟩, hfound, hdone⟩ := bind_eq_ok_iff.mp hdone
  cases hdone
  -- The actor is hidden first, and that leaves it on the tile where its stand-in arrives.
  have hhide : Change place.map w (w.modifyActor k fun a => { a with hidden := true }) :=
    .adjust k fun _ => ⟨rfl, rfl⟩
  have hhidden : (w.modifyActor k fun a => { a with hidden := true }).actor? k =
      some { actor with hidden := true } := by
    rw [World.actor?_modifyActor, if_pos rfl, actor?_of_resolve hfound, Option.map_some]
  exact .tail (.single hhide) (.double _ _ _ hhidden rfl)

theorem attempt_changes {map : GridMap} {stage : Stage} {result : Except ScriptError World}
    (h : ∀ next, result = .ok next → Changes map stage.world next) :
    Changes map stage.world (attempt stage result).1.world := by
  cases result with
  | error e => exact .refl
  | ok next => exact h next rfl

theorem withQuests_changes {map : GridMap} {result : Except QuestError QuestLog}
    (hdone : withQuests place scope w result = .ok next) : Changes map w next := by
  cases result with
  | error e => cases hdone
  | ok quests =>
    cases hdone
    exact .single (.others rfl)

/-- Whether an action is the return of an actor that a stand-in hides. -/
def returns : Action → Bool
  | .standInEnd _ => true
  | _ => false

theorem perform_changes (place : Place) (scope : Scope) (stage : Stage) {action : Action}
    (h : returns action = false) :
    Changes place.map stage.world (perform place scope stage action).1.world := by
  cases action with
  | standInEnd => cases h
  | walk ref path =>
    simp only [perform, afterWalk]
    cases hdone : walk place scope stage.world ref path with
    | error e => exact .refl
    | ok walked => exact .single (walk_change hdone)
  | warp => exact attempt_changes fun _ hdone => .single (warp_change hdone)
  | spawn => exact attempt_changes fun _ hdone => spawn_changes hdone
  | destroy target => exact destroy_changes target
  | standIn => exact attempt_changes fun _ hdone => standIn_changes hdone
  | setArg => exact attempt_changes fun _ hdone => .single (setArg_change hdone)
  | face => exact attempt_changes fun _ hdone => .single (face_change hdone)
  | startQuest | finishQuest | startStep | finishStep | revealHint =>
    exact attempt_changes fun _ hdone => withQuests_changes hdone
  | text line awaitInput => cases awaitInput <;> exact .refl
  | jump | unjump | startEvent | endEvent | forceEnd | question | teleport | forceCombat | unknown
  | malformed => exact .refl
  | takeItem item count => exact .single (.others (World.actors_takeItem stage.world item count))
  | joinParty name => exact .single (.others (World.actors_joinParty stage.world name))
  | _ => exact .single (.others rfl)

end Dispatch

namespace World

theorem stepWalker_changes (map : GridMap) (w : World) (h : Handle) :
    Changes map w (stepWalker map w h).1 := by
  unfold stepWalker
  split
  · exact .refl
  · next actor hactor =>
    split
    · exact .refl
    · next direction path hpath =>
      simp only
      split
      · exact .refl
      · split
        · exact .refl
        · next hin _ =>
          exact .single (.stride hactor hpath (by simpa using hin))

theorem stepEach_changes (map : GridMap) (handles : List Handle) (w : World) :
    Changes map w (stepEach map w handles).1 := by
  induction handles generalizing w with
  | nil => exact .refl
  | cons h rest ih =>
    have hstep := stepWalker_changes map w h
    rw [stepEach]
    generalize stepWalker map w h = stepped at *
    obtain ⟨next, result⟩ := stepped
    cases result with
    | error e => exact hstep
    | ok moved => exact hstep.trans (ih next)

theorem stepWalkers_changes (map : GridMap) (w : World) :
    Changes map w (w.stepWalkers map).1 :=
  stepEach_changes map _ w

end World

end StoryEngine
