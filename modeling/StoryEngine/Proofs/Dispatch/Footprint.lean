import StoryEngine.Proofs.Result
import StoryEngine.Script.Dispatch

/-! # What actions may change

Each part of the stage belongs to the verbs that may change it, and every other action leaves it as
it was. A failure makes no exception: what an action did before it failed lies in its own part too.
-/

namespace StoryEngine

set_option autoImplicit false

namespace Dispatch

/-- The parts of the stage that actions change. -/
inductive Part where
  | flags
  | gold
  | inventory
  | party
  | quests
  | actors
  | timers
deriving DecidableEq

namespace Part

/-- The verbs that may change a part. -/
def verbs : Part → List Verb
  | flags => [.setFlag, .clearFlag, .resetFlags]
  | gold => [.giveGold, .takeGold]
  | inventory => [.giveItem, .takeItem]
  | party => [.joinParty, .leaveParty]
  | quests =>
    [.startQuest, .completeQuest, .failQuest, .startStep, .completeStep, .failStep, .revealHint]
  | actors => [.walk, .warp, .spawn, .destroy, .standIn, .standInEnd, .setArg, .face]
  | timers => [.wait]

def Same (a b : Stage) : Part → Prop
  | flags => a.world.flags = b.world.flags
  | gold => a.world.gold = b.world.gold
  | inventory => a.world.inventory = b.world.inventory
  | party => a.world.party = b.world.party
  | quests => a.world.quests = b.world.quests
  | actors => a.world.actors = b.world.actors
  | timers => a.timers = b.timers

theorem Same.refl (part : Part) (a : Stage) : part.Same a a := by cases part <;> rfl

theorem Same.trans {part : Part} {a b c : Stage} (hab : part.Same a b) (hbc : part.Same b c) :
    part.Same a c := by
  cases part <;> exact Eq.trans hab hbc

end Part

/-- What no action changes is the same on two stages. -/
structure SameOutside (a b : Stage) : Prop where
  talkedTo : a.world.talkedTo = b.world.talkedTo
  equipment : a.world.equipment = b.world.equipment
  lastKeyword : a.world.lastKeyword = b.world.lastKeyword
  fluency : a.world.fluency = b.world.fluency
  player : a.world.player = b.world.player
  turns : a.world.turns = b.world.turns

theorem SameOutside.refl (a : Stage) : SameOutside a a := ⟨rfl, rfl, rfl, rfl, rfl, rfl⟩

theorem SameOutside.trans {a b c : Stage} (hab : SameOutside a b) (hbc : SameOutside b c) :
    SameOutside a c :=
  ⟨hab.talkedTo.trans hbc.talkedTo, hab.equipment.trans hbc.equipment,
    hab.lastKeyword.trans hbc.lastKeyword, hab.fluency.trans hbc.fluency,
    hab.player.trans hbc.player, hab.turns.trans hbc.turns⟩

/-- A stage and what becomes of it when at most the given part is replaced. -/
inductive Replaces (stage : Stage) : Option Part → Stage → Prop where
  | nothing (part : Option Part) : Replaces stage part stage
  | flags (flags : StringSet) :
      Replaces stage (some .flags) { stage with world := { stage.world with flags } }
  | gold (gold : Nat) :
      Replaces stage (some .gold) { stage with world := { stage.world with gold } }
  | inventory (inventory : StringMap Nat) :
      Replaces stage (some .inventory) { stage with world := { stage.world with inventory } }
  | party (party : List String) :
      Replaces stage (some .party) { stage with world := { stage.world with party } }
  | quests (quests : QuestLog) :
      Replaces stage (some .quests) { stage with world := { stage.world with quests } }
  | actors (actors : Arena) :
      Replaces stage (some .actors) { stage with world := { stage.world with actors } }
  | timers (timers : Timers) : Replaces stage (some .timers) { stage with timers }

section Replaces

variable {stage after : Stage} {part : Option Part}

theorem Replaces.sameOutside (h : Replaces stage part after) : SameOutside stage after := by
  cases h <;> exact ⟨rfl, rfl, rfl, rfl, rfl, rfl⟩

theorem Replaces.same {other : Part} (h : Replaces stage part after) (hother : part ≠ some other) :
    other.Same stage after := by
  cases h with
  | nothing => exact Part.Same.refl other stage
  | flags => cases other with
    | flags => exact absurd rfl hother
    | _ => rfl
  | gold => cases other with
    | gold => exact absurd rfl hother
    | _ => rfl
  | inventory => cases other with
    | inventory => exact absurd rfl hother
    | _ => rfl
  | party => cases other with
    | party => exact absurd rfl hother
    | _ => rfl
  | quests => cases other with
    | quests => exact absurd rfl hother
    | _ => rfl
  | actors => cases other with
    | actors => exact absurd rfl hother
    | _ => rfl
  | timers => cases other with
    | timers => exact absurd rfl hother
    | _ => rfl

end Replaces

def OtherActors (w next : World) : Prop := ∃ actors, next = { w with actors }

namespace OtherActors

variable {w v next : World}

theorem refl (w : World) : OtherActors w w := ⟨w.actors, rfl⟩

theorem trans (h : OtherActors w v) (hnext : OtherActors v next) : OtherActors w next := by
  obtain ⟨_, rfl⟩ := h
  obtain ⟨actors, rfl⟩ := hnext
  exact ⟨actors, rfl⟩

theorem modifyActor (w : World) (h : Handle) (change : Actor → Actor) :
    OtherActors w (w.modifyActor h change) := ⟨_, rfl⟩

theorem spawn (w : World) (actor : Actor) : OtherActors w (w.spawn actor).2 := ⟨_, rfl⟩

theorem despawn (w : World) (h : Handle) : OtherActors w (w.despawn h) := ⟨_, rfl⟩

theorem foldl {α : Type} {step : World → α → World} (hstep : ∀ w a, OtherActors w (step w a))
    (list : List α) (w : World) : OtherActors w (list.foldl step w) := by
  induction list generalizing w with
  | nil => exact refl w
  | cons a rest ih => exact (hstep w a).trans (ih (step w a))

end OtherActors

section Actors

variable {place : Place} {scope : Scope} {w next : World} {ref : ActorRef}

theorem walk_otherActors {path : List Direction} {h : Handle}
    (hdone : walk place scope w ref path = .ok (h, next)) : OtherActors w next := by
  obtain ⟨_, _, hdone⟩ := bind_eq_ok_iff.mp hdone
  simp only at hdone
  split at hdone
  · cases hdone
  · cases hdone
    exact .modifyActor w _ _

theorem warp_otherActors {target : ActorRef} (hdone : warp place scope w ref target = .ok next) :
    OtherActors w next := by
  obtain ⟨⟨k, _⟩, _, hdone⟩ := bind_eq_ok_iff.mp hdone
  obtain ⟨_, _, hdone⟩ := bind_eq_ok_iff.mp hdone
  obtain ⟨_, _, hdone⟩ := bind_eq_ok_iff.mp hdone
  cases hdone
  exact .modifyActor w k _

theorem spawn_otherActors {run : TileRun} (hdone : spawn place scope w run = .ok next) :
    OtherActors w next := by
  unfold spawn at hdone
  split at hdone
  · cases hdone
  · cases hdone
    exact .foldl (fun w p => .spawn w _) run.tiles w

theorem despawnAll_otherActors (w : World) (handles : List Handle) :
    OtherActors w (despawnAll w handles) :=
  .foldl .despawn handles w

theorem clearTiles_otherActors (kind : String) (direction : Direction) (n : Nat) (p : Position)
    (w : World) : OtherActors w (clearTiles place scope kind direction n p w).1 := by
  induction n generalizing p w with
  | zero => exact .refl w
  | succ n ih =>
    rw [clearTiles]
    split
    · exact (despawnAll_otherActors w _).trans (ih (p.step direction) (clearTile kind w p))
    · exact .refl w

theorem destroyNamed_otherActors {name : String}
    (hdone : destroyNamed place scope w name = .ok next) : OtherActors w next := by
  unfold destroyNamed at hdone
  split at hdone
  · split at hdone
    · next h _ =>
      cases hdone
      exact .despawn w h
    · cases hdone
  · cases hdone
    exact despawnAll_otherActors w _

theorem destroy_otherActors (w : World) (target : DestroyTarget) :
    OtherActors w (destroy place scope w target).1 := by
  cases target with
  | named name =>
    simp only [destroy]
    cases hdone : destroyNamed place scope w name with
    | ok next => exact destroyNamed_otherActors hdone
    | error _ => exact .refl w
  | tiles run =>
    -- Also when a tile is off the map: those in front of it have been cleared.
    exact clearTiles_otherActors run.kind run.direction run.count run.origin w

theorem standIn_otherActors (hdone : standIn place scope w ref = .ok next) :
    OtherActors w next := by
  obtain ⟨⟨k, _⟩, _, hdone⟩ := bind_eq_ok_iff.mp hdone
  cases hdone
  exact (OtherActors.modifyActor w k _).trans (.spawn _ _)

theorem standInEnd_otherActors (hdone : standInEnd place scope w ref = .ok next) :
    OtherActors w next := by
  obtain ⟨⟨k, _⟩, _, hdone⟩ := bind_eq_ok_iff.mp hdone
  simp only at hdone
  split at hdone
  · cases hdone
  · next p _ _ =>
    cases hdone
    exact (OtherActors.despawn w p).trans (.modifyActor _ k _)

theorem setArg_otherActors {key : String} {update : ArgUpdate}
    (hdone : setArg place scope w ref key update = .ok next) : OtherActors w next := by
  obtain ⟨⟨k, _⟩, _, hdone⟩ := bind_eq_ok_iff.mp hdone
  obtain ⟨_, _, hdone⟩ := bind_eq_ok_iff.mp hdone
  cases hdone
  exact .modifyActor w k _

theorem face_otherActors {direction : Direction}
    (hdone : face place scope w ref direction = .ok next) : OtherActors w next := by
  obtain ⟨⟨k, _⟩, _, hdone⟩ := bind_eq_ok_iff.mp hdone
  cases hdone
  exact .modifyActor w k _

end Actors

def ownPart : Action → Option Part
  | .setFlag _ | .clearFlag _ | .resetFlags _ => some .flags
  | .giveGold _ | .takeGold _ => some .gold
  | .giveItem _ _ | .takeItem _ _ => some .inventory
  | .joinParty _ | .leaveParty _ => some .party
  | .startQuest _ | .finishQuest _ _ | .startStep _ _ | .finishStep _ _ _ | .revealHint _ _ =>
    some .quests
  | .walk _ _ | .warp _ _ | .spawn _ | .destroy _ | .standIn _ | .standInEnd _ | .setArg _ _ _
  | .face _ _ => some .actors
  | .wait _ => some .timers
  | _ => none

theorem verbName_mem_verbs {action : Action} {part : Part} (h : ownPart action = some part) :
    action.isDegraded = false ∧ action.verbName ∈ part.verbs.map Verb.name := by
  cases action with
  | finishQuest quest outcome =>
    cases h
    cases outcome <;> simp [Action.isDegraded, Action.verbName, Part.verbs]
  | finishStep quest step outcome =>
    cases h
    cases outcome <;> simp [Action.isDegraded, Action.verbName, Part.verbs]
  | _ => cases h <;> simp [Action.isDegraded, Action.verbName, Part.verbs]

section Perform

variable (place : Place) (scope : Scope) (stage : Stage)

theorem takeItem_replaces (item : String) (count : Nat) :
    Replaces stage (some .inventory) { stage with world := stage.world.takeItem item count } := by
  unfold World.takeItem
  split
  · split
    · exact .inventory _
    · exact .inventory _
  · exact .nothing _

theorem joinParty_replaces (name : String) :
    Replaces stage (some .party) { stage with world := stage.world.joinParty name } := by
  unfold World.joinParty
  split
  · exact .nothing _
  · exact .party _

variable {stage}

theorem OtherActors.replaces {w : World} (h : OtherActors stage.world w) :
    Replaces stage (some .actors) { stage with world := w } := by
  obtain ⟨actors, rfl⟩ := h
  exact .actors actors

theorem attempt_replaces {result : Except ScriptError World}
    (h : ∀ {w}, result = .ok w → OtherActors stage.world w) :
    Replaces stage (some .actors) (attempt stage result).1 := by
  cases result with
  | ok w => exact (h rfl).replaces
  | error _ => exact .nothing _

theorem withQuests_replaces (result : Except QuestError QuestLog) :
    Replaces stage (some .quests)
      (attempt stage (withQuests place scope stage.world result)).1 := by
  cases result with
  | ok quests => exact .quests quests
  | error _ => exact .nothing _

variable (stage)

theorem walk_replaces (ref : ActorRef) (path : List Direction) :
    Replaces stage (some .actors)
      (afterWalk stage (walk place scope stage.world ref path)).1 := by
  cases hdone : walk place scope stage.world ref path with
  | ok walked => exact (walk_otherActors hdone).replaces
  | error _ => exact .nothing _

theorem perform_replaces (action : Action) :
    Replaces stage (ownPart action) (perform place scope stage action).1 := by
  cases action with
  | setFlag | clearFlag | resetFlags => exact .flags _
  | giveGold | takeGold => exact .gold _
  | giveItem => exact .inventory _
  | takeItem item count => exact takeItem_replaces stage item count
  | joinParty name => exact joinParty_replaces stage name
  | leaveParty => exact .party _
  | startQuest | finishQuest | startStep | finishStep | revealHint =>
    exact withQuests_replaces place scope _
  | walk ref path => exact walk_replaces place scope stage ref path
  | warp => exact attempt_replaces warp_otherActors
  | spawn => exact attempt_replaces spawn_otherActors
  | destroy target => exact (destroy_otherActors stage.world target).replaces
  | standIn => exact attempt_replaces standIn_otherActors
  | standInEnd => exact attempt_replaces standInEnd_otherActors
  | setArg => exact attempt_replaces setArg_otherActors
  | face => exact attempt_replaces face_otherActors
  | wait => exact .timers _
  -- What is left tells the session something and does not touch the stage.
  | text line awaitInput => cases awaitInput <;> exact .nothing _
  | _ => exact .nothing _

/-- Whether it succeeds or fails, an action changes a part of the stage only if it is in working
order and its verb is one of those that may, and no action changes what is outside the parts. -/
theorem changed_only_by_own_verbs (action : Action) :
    SameOutside stage (perform place scope stage action).1 ∧
      ∀ part : Part, part.Same stage (perform place scope stage action).1 ∨
        action.isDegraded = false ∧ action.verbName ∈ part.verbs.map Verb.name := by
  have hreplaces := perform_replaces place scope stage action
  refine ⟨hreplaces.sameOutside, fun part => ?_⟩
  by_cases hown : ownPart action = some part
  · exact .inr (verbName_mem_verbs hown)
  · exact .inl (hreplaces.same hown)

theorem performAll_sameOutside (actions : List Action) :
    SameOutside stage (performAll place scope stage actions).1 := by
  induction actions generalizing stage with
  | nil => exact .refl stage
  | cons action rest ih =>
    have hfirst := (perform_replaces place scope stage action).sameOutside
    rw [performAll]
    split
    · next h =>
      rw [h] at hfirst
      exact hfirst
    · next h =>
      rw [h] at hfirst
      exact hfirst.trans (ih _)

/-- A part is the same after actions none of which may change it, however many are carried out. -/
theorem performAll_same {part : Part} {actions : List Action}
    (h : ∀ action ∈ actions, ownPart action ≠ some part) :
    part.Same stage (performAll place scope stage actions).1 := by
  induction actions generalizing stage with
  | nil => exact Part.Same.refl part stage
  | cons action rest ih =>
    have hfirst := (perform_replaces place scope stage action).same (h action List.mem_cons_self)
    rw [performAll]
    split
    · next hdone =>
      rw [hdone] at hfirst
      exact hfirst
    · next hdone =>
      rw [hdone] at hfirst
      exact hfirst.trans (ih _ fun other hother => h other (List.mem_cons_of_mem _ hother))

end Perform

end Dispatch

end StoryEngine
