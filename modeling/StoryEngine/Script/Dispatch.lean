import StoryEngine.Script.Action
import StoryEngine.Script.Error
import StoryEngine.Time.Timer
import StoryEngine.World.State

/-! # Carrying out an action

An action changes the stage, that is the world and the timers, and leaves a directive for whoever
runs the script. A failure comes with the stage as it is then: all checks come before the first
change, but destroying a run of tiles goes tile by tile and keeps what it did before a tile off the
map.
-/

namespace StoryEngine

set_option autoImplicit false

structure Stage where
  world : World
  timers : Timers
deriving DecidableEq

/-- The map and the time at which something happens. -/
structure Place where
  map : GridMap
  now : Tick
deriving DecidableEq

/-- For whom an action is carried out. -/
structure Scope where
  script : String
  master : Option Handle
  timerScope : String
deriving DecidableEq

/-- Requests that leave the scripts and change the mode of the game. -/
inductive Transition where
  | teleport (map : String) (position : Position)
  | combat (encounter : String)
deriving DecidableEq

inductive Directive where
  | proceed
  | show (line : TextLine)
  | awaitInput (line : TextLine) (skipOnNo : Option Nat)
  | pause (timer : String)
  | walkers (handles : List Handle)
  | jump (back : Bool) (lines : Nat)
  | startScript (script : String)
  | endScript (script : String)
  | forceEnd
  | transition (target : Transition)
deriving DecidableEq

def Scope.waitTimer (scope : Scope) : String := scope.timerScope ++ Timers.waitMark

namespace Dispatch

def standInKind : String := "stand_in"

def standInName (name : String) : String := name ++ "_stand_in"

def missingActor (place : Place) (scope : Scope) (name : String) : ScriptError :=
  .missingActor name scope.script place.map.name

/-- A living actor and its handle. -/
def resolve (place : Place) (scope : Scope) (w : World) : ActorRef →
    Except ScriptError (Handle × Actor)
  | .master =>
    match scope.master.bind fun h => (w.actor? h).map fun a => (h, a) with
    | some found => .ok found
    | none => .error (.noMaster scope.script)
  | .named name =>
    match (w.findActor? name).bind fun h => (w.actor? h).map fun a => (h, a) with
    | some found => .ok found
    | none => .error (missingActor place scope name)

def outOfBounds (place : Place) (scope : Scope) (name : String) (p : Position) : ScriptError :=
  .outOfBounds name p scope.script place.map.name

def ensureInBounds (place : Place) (scope : Scope) (name : String) (p : Position) :
    Except ScriptError Unit :=
  if place.map.inBounds p then .ok () else .error (outOfBounds place scope name p)

/-- The first tile of a path that lies off the map. -/
def leavesAt? (map : GridMap) : Position → List Direction → Option Position
  | _, [] => none
  | p, d :: path =>
    if map.inBounds (p.step d) then leavesAt? map (p.step d) path else some (p.step d)

def walk (place : Place) (scope : Scope) (w : World) (actor : ActorRef) (path : List Direction) :
    Except ScriptError (Handle × World) := do
  let (h, found) ← resolve place scope w actor
  match leavesAt? place.map found.position path with
  | some p => throw (outOfBounds place scope found.name p)
  | none => return (h, w.modifyActor h fun a => { a with path })

def warp (place : Place) (scope : Scope) (w : World) (actor target : ActorRef) :
    Except ScriptError World := do
  let (h, found) ← resolve place scope w actor
  let (_, goal) ← resolve place scope w target
  ensureInBounds place scope found.name goal.position
  return w.modifyActor h fun a => { a with position := goal.position, path := [] }

/-- The first of some tiles in a row that lies off the map. -/
def runLeavesAt? (map : GridMap) (direction : Direction) : Nat → Position → Option Position
  | 0, _ => none
  | n + 1, p =>
    if map.inBounds p then runLeavesAt? map direction n (p.step direction) else some p

def spawnAt (kind : String) (w : World) (p : Position) : World :=
  (w.spawn (.arriving kind kind p)).2

def spawn (place : Place) (scope : Scope) (w : World) (run : TileRun) :
    Except ScriptError World :=
  match runLeavesAt? place.map run.direction run.count run.origin with
  | some p => .error (outOfBounds place scope run.kind p)
  | none => .ok (run.tiles.foldl (spawnAt run.kind) w)

def despawnAll (w : World) (handles : List Handle) : World := handles.foldl World.despawn w

def clearTile (kind : String) (w : World) (p : Position) : World :=
  despawnAll w (w.actors.handlesWhere fun a => a.position == p && Text.sameName a.kind kind)

def clearTiles (place : Place) (scope : Scope) (kind : String) (direction : Direction) :
    Nat → Position → World → World × Except ScriptError Unit
  | 0, _, w => (w, .ok ())
  | n + 1, p, w =>
    if place.map.inBounds p then
      clearTiles place scope kind direction n (p.step direction) (clearTile kind w p)
    else (w, .error (outOfBounds place scope kind p))

/-- A name stands for every actor of that kind, and if there is none, for the actor so called. -/
def destroyNamed (place : Place) (scope : Scope) (w : World) (name : String) :
    Except ScriptError World :=
  match w.actors.ofKind name with
  | [] =>
    match w.findActor? name with
    | some h => .ok (w.despawn h)
    | none => .error (missingActor place scope name)
  | handles => .ok (despawnAll w handles)

def destroy (place : Place) (scope : Scope) (w : World) : DestroyTarget →
    World × Except ScriptError Unit
  | .named name =>
    match destroyNamed place scope w name with
    | .ok w => (w, .ok ())
    | .error e => (w, .error e)
  | .tiles run => clearTiles place scope run.kind run.direction run.count run.origin w

/-- Hides an actor behind a proxy on the same tile. -/
def standIn (place : Place) (scope : Scope) (w : World) (actor : ActorRef) :
    Except ScriptError World := do
  let (h, found) ← resolve place scope w actor
  let proxy := Actor.arriving (standInName found.name) standInKind found.position
  let hidden := w.modifyActor h fun a => { a with hidden := true }
  return (hidden.spawn { proxy with facing := found.facing }).2

/-- Removes the proxy and shows the actor where the proxy stood. -/
def standInEnd (place : Place) (scope : Scope) (w : World) (actor : ActorRef) :
    Except ScriptError World := do
  let (h, found) ← resolve place scope w actor
  let name := standInName found.name
  match (w.actors.findByName? name).bind fun p => (w.actor? p).map fun a => (p, a) with
  | none => throw (missingActor place scope name)
  | some (p, proxy) =>
    return (w.despawn p).modifyActor h fun a =>
      { a with position := proxy.position, facing := proxy.facing, hidden := false }

/-- The nearest number that fits into 64 bits with a sign. -/
def saturate64 (n : Int) : Int := max (-0x8000000000000000) (min 0x7FFFFFFFFFFFFFFF n)

def updatedArg (scope : Scope) (w : World) (actor : Actor) (key : String) :
    ArgUpdate → Except ScriptError ArgValue
  | .set value => .ok value
  | .now => .ok (.number w.turns.turnCount)
  | .delta amount =>
    match actor.args.get? key with
    | none => .ok (.number (saturate64 amount))
    | some (.number n) => .ok (.number (saturate64 (n + amount)))
    | some (.text _) =>
      .error (.invalidArgument Verb.setArg.name s!"{amount} on text arg '{key}'" scope.script)

def setArg (place : Place) (scope : Scope) (w : World) (actor : ActorRef) (key : String)
    (update : ArgUpdate) : Except ScriptError World := do
  let (h, found) ← resolve place scope w actor
  let value ← updatedArg scope w found key update
  return w.modifyActor h fun a => { a with args := a.args.insert key value }

def face (place : Place) (scope : Scope) (w : World) (actor : ActorRef) (direction : Direction) :
    Except ScriptError World := do
  let (h, _) ← resolve place scope w actor
  return w.modifyActor h fun a => { a with facing := direction }

def withQuests (place : Place) (scope : Scope) (w : World) (result : Except QuestError QuestLog) :
    Except ScriptError World :=
  match result with
  | .ok quests => .ok { w with quests }
  | .error cause => .error (.quest cause scope.script place.map.name)

abbrev Result := Stage × Except ScriptError Directive

def changed (stage : Stage) (w : World) : Result := ({ stage with world := w }, .ok .proceed)

def unchanged (stage : Stage) (directive : Directive) : Result := (stage, .ok directive)

/-- A failure changes nothing. -/
def attempt (stage : Stage) (result : Except ScriptError World) : Result :=
  match result with
  | .ok w => changed stage w
  | .error e => (stage, .error e)

def afterWalk (stage : Stage) (result : Except ScriptError (Handle × World)) : Result :=
  match result with
  | .ok (h, w) => ({ stage with world := w }, .ok (.walkers [h]))
  | .error e => (stage, .error e)

def afterDestroy (stage : Stage) (result : World × Except ScriptError Unit) : Result :=
  ({ stage with world := result.1 }, result.2.map fun _ => .proceed)

def startWait (place : Place) (scope : Scope) (stage : Stage) (millis : Nat) : Result :=
  ({ stage with timers := stage.timers.start scope.waitTimer millis place.now },
    .ok (.pause scope.waitTimer))

def perform (place : Place) (scope : Scope) (stage : Stage) : Action → Result
  | .setFlag flag => changed stage (stage.world.setFlag flag)
  | .clearFlag flag => changed stage (stage.world.clearFlag flag)
  | .resetFlags start => changed stage (stage.world.resetFlags start)
  | .giveGold amount => changed stage (stage.world.giveGold amount)
  | .takeGold amount => changed stage (stage.world.takeGold amount)
  | .giveItem item count => changed stage (stage.world.giveItem item count)
  | .takeItem item count => changed stage (stage.world.takeItem item count)
  | .jump lines => unchanged stage (.jump false lines)
  | .unjump lines => unchanged stage (.jump true lines)
  | .startEvent script => unchanged stage (.startScript script)
  | .endEvent script => unchanged stage (.endScript script)
  | .forceEnd => unchanged stage .forceEnd
  | .text line true => unchanged stage (.awaitInput line none)
  | .text line false => unchanged stage (.show line)
  | .question line skip => unchanged stage (.awaitInput line (some skip))
  | .walk actor path => afterWalk stage (walk place scope stage.world actor path)
  | .warp actor target => attempt stage (warp place scope stage.world actor target)
  | .spawn run => attempt stage (spawn place scope stage.world run)
  | .destroy target => afterDestroy stage (destroy place scope stage.world target)
  | .standIn actor => attempt stage (standIn place scope stage.world actor)
  | .standInEnd actor => attempt stage (standInEnd place scope stage.world actor)
  | .teleport map position => unchanged stage (.transition (.teleport map position))
  | .forceCombat encounter => unchanged stage (.transition (.combat encounter))
  | .setArg actor key update => attempt stage (setArg place scope stage.world actor key update)
  | .wait millis => startWait place scope stage millis
  | .startQuest quest =>
    attempt stage (withQuests place scope stage.world (stage.world.quests.startQuest quest))
  | .finishQuest quest outcome =>
    attempt stage
      (withQuests place scope stage.world (stage.world.quests.finishQuest quest outcome))
  | .startStep quest step =>
    attempt stage (withQuests place scope stage.world (stage.world.quests.startStep quest step))
  | .finishStep quest step outcome =>
    attempt stage
      (withQuests place scope stage.world (stage.world.quests.finishStep quest step outcome))
  | .revealHint quest hint =>
    attempt stage (withQuests place scope stage.world (stage.world.quests.revealHint quest hint))
  | .joinParty name => changed stage (stage.world.joinParty name)
  | .leaveParty name => changed stage (stage.world.leaveParty name)
  | .face actor direction => attempt stage (face place scope stage.world actor direction)
  | .unknown _ _ => unchanged stage .proceed
  | .malformed _ _ _ => unchanged stage .proceed

/-- Performs actions in order up to the first that fails: the stage as it is then, the directives of
the actions that succeeded, and the error. -/
def performAll (place : Place) (scope : Scope) (stage : Stage) :
    List Action → Stage × List Directive × Option ScriptError
  | [] => (stage, [], none)
  | action :: rest =>
    match perform place scope stage action with
    | (stage, .error error) => (stage, [], some error)
    | (stage, .ok directive) =>
      let (stage, directives, error) := performAll place scope stage rest
      (stage, directive :: directives, error)

end Dispatch

end StoryEngine
