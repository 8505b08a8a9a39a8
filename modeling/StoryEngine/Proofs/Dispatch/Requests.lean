import StoryEngine.Proofs.Dispatch.Failure
import StoryEngine.Proofs.World.Changes
import StoryEngine.Proofs.World.Handles
import StoryEngine.Session.Advance

/-! # What actions ask of the arena

An action has the actors arrive, leave and change through the arena only. What it asks for can be
told from the world that it finds, so that a history of the arena can be kept for all actions that
are carried out.
-/

namespace StoryEngine

set_option autoImplicit false

namespace Dispatch

open Arena (Request)

section Requests

variable (place : Place) (scope : Scope) (w : World)

/-- What is asked for an actor that is found. -/
def onFound (ref : ActorRef) (asks : Handle → Actor → List Request) : List Request :=
  match resolve place scope w ref with
  | .ok (h, actor) => asks h actor
  | .error _ => []

def clearRequests (kind : String) : List Position → World → List Request
  | [], _ => []
  | p :: tiles, w =>
    (w.actors.handlesWhere fun a => a.position == p && Text.sameName a.kind kind).map .despawn ++
      clearRequests kind tiles (clearTile kind w p)

def standInEndRequests (h : Handle) (actor : Actor) : List Request :=
  match (w.actors.findByName? (standInName actor.name)).bind
    fun p => (w.actor? p).map fun a => (p, a) with
  | some (p, proxy) => [.despawn p, .modify h fun a =>
      { a with position := proxy.position, facing := proxy.facing, hidden := false }]
  | none => []

/-- What an action asks of the arena. -/
def requests : Action → List Request
  | .walk ref path => onFound place scope w ref fun h actor =>
    if (leavesAt? place.map actor.position path).isNone then [.modify h fun a => { a with path }]
    else []
  | .warp ref target => onFound place scope w ref fun h _ =>
    onFound place scope w target fun _ goal =>
      if place.map.inBounds goal.position then
        [.modify h fun a => { a with position := goal.position, path := [] }]
      else []
  | .spawn run =>
    if (runLeavesAt? place.map run.direction run.count run.origin).isNone then
      run.tiles.map fun p => .spawn (.arriving run.kind run.kind p)
    else []
  | .destroy (.named name) =>
    match w.actors.ofKind name with
    | [] => (w.findActor? name).toList.map .despawn
    | handles => handles.map .despawn
  | .destroy (.tiles run) => clearRequests run.kind (run.tiles.takeWhile place.map.inBounds) w
  | .standIn ref => onFound place scope w ref fun h actor =>
    [.modify h fun a => { a with hidden := true },
      .spawn { Actor.arriving (standInName actor.name) standInKind actor.position with
        facing := actor.facing }]
  | .standInEnd ref => onFound place scope w ref (standInEndRequests w)
  | .setArg ref key update => onFound place scope w ref fun h actor =>
    match updatedArg scope w actor key update with
    | .ok value => [.modify h fun a => { a with args := a.args.insert key value }]
    | .error _ => []
  | .face ref direction => onFound place scope w ref fun h _ =>
    [.modify h fun a => { a with facing := direction }]
  | _ => []

theorem actors_despawnAll (handles : List Handle) :
    (despawnAll w handles).actors = w.actors.serve (handles.map .despawn) := by
  induction handles generalizing w with
  | nil => rfl
  | cons h rest ih => exact ih (w.despawn h)

theorem actors_spawnAll (kind : String) (tiles : List Position) :
    (tiles.foldl (spawnAt kind) w).actors =
      w.actors.serve (tiles.map fun p => .spawn (.arriving kind kind p)) := by
  induction tiles generalizing w with
  | nil => rfl
  | cons p tiles ih => exact ih (spawnAt kind w p)

theorem actors_clear (kind : String) (tiles : List Position) :
    (tiles.foldl (clearTile kind) w).actors = w.actors.serve (clearRequests kind tiles w) := by
  induction tiles generalizing w with
  | nil => rfl
  | cons p tiles ih =>
    rw [List.foldl_cons, ih, clearRequests, Arena.serve_append]
    exact congrArg (Arena.serve · _) (actors_despawnAll w _)

variable {place scope w}

/-- A result is what comes of some requests, and nothing was asked for if it is a failure. -/
def Answers (w : World) (asks : List Request) : Except ScriptError World → Prop
  | .ok next => next.actors = w.actors.serve asks
  | .error _ => asks = []

theorem Answers.attempt {stage : Stage} {asks : List Request} {result : Except ScriptError World}
    (h : Answers stage.world asks result) :
    (attempt stage result).1.world.actors = stage.world.actors.serve asks := by
  cases result with
  | ok next => exact h
  | error e =>
    obtain rfl : asks = [] := h
    rfl

theorem answers_onFound {ref : ActorRef} {asks : Handle → Actor → List Request}
    {f : Handle × Actor → Except ScriptError World}
    (h : ∀ k actor, Answers w (asks k actor) (f (k, actor))) :
    Answers w (onFound place scope w ref asks) (resolve place scope w ref >>= f) := by
  unfold onFound
  cases resolve place scope w ref with
  | error e => rfl
  | ok found => exact h found.1 found.2

theorem warp_answers (ref target : ActorRef) :
    Answers w (requests place scope w (.warp ref target)) (warp place scope w ref target) := by
  refine answers_onFound fun h _ => answers_onFound fun _ goal => ?_
  simp only [ensureInBounds]
  cases place.map.inBounds goal.position <;> rfl

theorem spawn_answers (run : TileRun) :
    Answers w (requests place scope w (.spawn run)) (spawn place scope w run) := by
  simp only [spawn, requests]
  cases runLeavesAt? place.map run.direction run.count run.origin with
  | none => exact actors_spawnAll w run.kind run.tiles
  | some p => rfl

theorem standIn_answers (ref : ActorRef) :
    Answers w (requests place scope w (.standIn ref)) (standIn place scope w ref) :=
  answers_onFound fun _ _ => rfl

theorem standInEnd_answers (ref : ActorRef) :
    Answers w (requests place scope w (.standInEnd ref)) (standInEnd place scope w ref) := by
  refine answers_onFound fun h actor => ?_
  unfold standInEndRequests
  simp only
  cases (w.actors.findByName? (standInName actor.name)).bind
    fun p => (w.actor? p).map fun a => (p, a) <;> rfl

theorem setArg_answers (ref : ActorRef) (key : String) (update : ArgUpdate) :
    Answers w (requests place scope w (.setArg ref key update))
      (setArg place scope w ref key update) := by
  refine answers_onFound fun h actor => ?_
  simp only
  cases updatedArg scope w actor key update <;> rfl

theorem face_answers (ref : ActorRef) (direction : Direction) :
    Answers w (requests place scope w (.face ref direction)) (face place scope w ref direction) :=
  answers_onFound fun _ _ => rfl

theorem withQuests_answers (result : Except QuestError QuestLog) :
    Answers w [] (withQuests place scope w result) := by
  cases result <;> rfl

theorem actors_walk (stage : Stage) (ref : ActorRef) (path : List Direction) :
    (afterWalk stage (walk place scope stage.world ref path)).1.world.actors =
      stage.world.actors.serve (requests place scope stage.world (.walk ref path)) := by
  simp only [walk, requests, onFound]
  cases resolve place scope stage.world ref with
  | error e => rfl
  | ok found =>
    obtain ⟨h, actor⟩ := found
    simp only [bind, Except.bind]
    cases leavesAt? place.map actor.position path <;> rfl

theorem actors_destroy (w : World) (target : DestroyTarget) :
    (destroy place scope w target).1.actors =
      w.actors.serve (requests place scope w (.destroy target)) := by
  cases target with
  | tiles run =>
    simp only [destroy, requests, clearTiles_fst]
    exact actors_clear w run.kind _
  | named name =>
    simp only [destroy, destroyNamed, requests]
    cases w.actors.ofKind name with
    | nil => cases w.findActor? name <;> rfl
    | cons h rest => exact actors_despawnAll w (h :: rest)

/-- The actors after an action are those of the arena that has served its requests. -/
theorem actors_perform (place : Place) (scope : Scope) (stage : Stage) (action : Action) :
    (perform place scope stage action).1.world.actors =
      stage.world.actors.serve (requests place scope stage.world action) := by
  cases action with
  | walk ref path => exact actors_walk stage ref path
  | destroy target => exact actors_destroy stage.world target
  | warp ref target => exact (warp_answers ref target).attempt
  | spawn run => exact (spawn_answers run).attempt
  | standIn ref => exact (standIn_answers ref).attempt
  | standInEnd ref => exact (standInEnd_answers ref).attempt
  | setArg ref key update => exact (setArg_answers ref key update).attempt
  | face ref direction => exact (face_answers ref direction).attempt
  | startQuest | finishQuest | startStep | finishStep | revealHint =>
    exact (withQuests_answers _).attempt
  | takeItem item count => exact World.actors_takeItem stage.world item count
  | joinParty name => exact World.actors_joinParty stage.world name
  | text line awaitInput => cases awaitInput <;> rfl
  | _ => rfl

end Requests

/-- What actions ask of the arena, up to the first that fails. -/
def requestsOfAll (place : Place) (scope : Scope) (stage : Stage) : List Action → List Request
  | [] => []
  | action :: rest =>
    requests place scope stage.world action ++
      match perform place scope stage action with
      | (stage, .ok _) => requestsOfAll place scope stage rest
      | (_, .error _) => []

end Dispatch

namespace Session

theorem actors_performAll (place : Place) (scope : Scope) (play : Play) (actions : List Action) :
    (performAll place scope play actions).1.stage.world.actors =
      play.stage.world.actors.serve
        (Dispatch.requestsOfAll place scope play.stage actions) := by
  induction actions generalizing play with
  | nil => rfl
  | cons action rest ih =>
    have hfirst := Dispatch.actors_perform place scope play.stage action
    rw [performAll, Dispatch.requestsOfAll, Arena.serve_append, ← hfirst]
    generalize Dispatch.perform place scope play.stage action = done
    obtain ⟨stage, result⟩ := done
    cases result with
    | error e => rfl
    | ok directive => exact ih ⟨(play.session.apply directive).1, stage⟩

end Session

end StoryEngine
