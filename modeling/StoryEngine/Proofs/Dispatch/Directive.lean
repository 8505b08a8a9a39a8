import StoryEngine.Proofs.Result
import StoryEngine.Script.Dispatch

/-! # What comes of an action

An action that succeeds leaves the directive of its verb. One that fails does so for want of an
actor, of room on the map or of a quest, or over the value of an argument, and never because a
script is missing: scripts are looked up by whoever follows the directives.
-/

namespace StoryEngine.Dispatch

set_option autoImplicit false

/-- What an action that succeeds may ask for. -/
inductive Asks (scope : Scope) : Action → Directive → Prop where
  | proceed (action : Action) : Asks scope action .proceed
  | prompt (line : TextLine) : Asks scope (.text line true) (.awaitInput line none)
  | «show» (line : TextLine) : Asks scope (.text line false) (.show line)
  | question (line : TextLine) (skip : Nat) :
      Asks scope (.question line skip) (.awaitInput line (some skip))
  | pause (millis : Nat) : Asks scope (.wait millis) (.pause scope.waitTimer)
  | walk (actor : ActorRef) (path : List Direction) (h : Handle) :
      Asks scope (.walk actor path) (.walkers [h])
  | jump (lines : Nat) : Asks scope (.jump lines) (.jump false lines)
  | unjump (lines : Nat) : Asks scope (.unjump lines) (.jump true lines)
  | startScript (script : String) : Asks scope (.startEvent script) (.startScript script)
  | endScript (script : String) : Asks scope (.endEvent script) (.endScript script)
  | forceEnd : Asks scope .forceEnd .forceEnd
  | teleport (map : String) (position : Position) :
      Asks scope (.teleport map position) (.transition (.teleport map position))
  | combat (encounter : String) :
      Asks scope (.forceCombat encounter) (.transition (.combat encounter))

section Asks

variable {place : Place} {scope : Scope} {stage : Stage} {directive : Directive}

theorem attempt_asks {result : Except ScriptError World} (action : Action)
    (h : (attempt stage result).2 = .ok directive) : Asks scope action directive := by
  cases result with
  | error e => cases h
  | ok w =>
    cases h
    exact .proceed action

theorem afterWalk_asks {result : Except ScriptError (Handle × World)} (actor : ActorRef)
    (path : List Direction) (h : (afterWalk stage result).2 = .ok directive) :
    Asks scope (.walk actor path) directive := by
  cases result with
  | error e => cases h
  | ok walked =>
    cases h
    exact .walk actor path walked.1

theorem afterDestroy_asks {result : World × Except ScriptError Unit} (action : Action)
    (h : (afterDestroy stage result).2 = .ok directive) : Asks scope action directive := by
  obtain ⟨_, _, rfl⟩ := map_eq_ok_iff.mp h
  exact .proceed action

theorem perform_asks {action : Action} (h : (perform place scope stage action).2 = .ok directive) :
    Asks scope action directive := by
  cases action with
  | walk actor path => exact afterWalk_asks actor path h
  | destroy target => exact afterDestroy_asks _ h
  | warp | spawn | standIn | standInEnd | setArg | startQuest | finishQuest | startStep
  | finishStep | revealHint | face => exact attempt_asks _ h
  | text line awaitInput =>
    cases awaitInput <;> cases h
    · exact .show line
    · exact .prompt line
  | _ =>
    cases h
    constructor

end Asks

def isMissingScript : ScriptError → Bool
  | .missingScript _ => true
  | _ => false

/-- Whether a result is a failure for want of a script. -/
def missesScript {α : Type} : Except ScriptError α → Bool
  | .error e => isMissingScript e
  | .ok _ => false

section MissesScript

variable {α β : Type}

theorem missesScript_bind {x : Except ScriptError α} {f : α → Except ScriptError β}
    (hx : missesScript x = false) (hf : ∀ a, missesScript (f a) = false) :
    missesScript (x >>= f) = false := by
  cases x with
  | error e => exact hx
  | ok a => exact hf a

theorem missesScript_map (x : Except ScriptError α) (f : α → β) :
    missesScript (x.map f) = missesScript x := by
  cases x <;> rfl

variable (place : Place) (scope : Scope) (stage : Stage) (w : World) (actor : ActorRef)

theorem resolve_missesScript : missesScript (resolve place scope w actor) = false := by
  unfold resolve
  split <;> split <;> rfl

theorem ensureInBounds_missesScript (name : String) (p : Position) :
    missesScript (ensureInBounds place scope name p) = false := by
  unfold ensureInBounds
  split <;> rfl

theorem walk_missesScript (path : List Direction) :
    missesScript (walk place scope w actor path) = false := by
  refine missesScript_bind (resolve_missesScript place scope w actor) fun found => ?_
  simp only
  split <;> rfl

theorem warp_missesScript (target : ActorRef) :
    missesScript (warp place scope w actor target) = false := by
  refine missesScript_bind (resolve_missesScript place scope w actor) fun found => ?_
  refine missesScript_bind (resolve_missesScript place scope w target) fun goal => ?_
  exact missesScript_bind (ensureInBounds_missesScript place scope _ _) fun _ => rfl

theorem spawn_missesScript (run : TileRun) : missesScript (spawn place scope w run) = false := by
  unfold spawn
  split <;> rfl

theorem clearTiles_missesScript (kind : String) (direction : Direction) (n : Nat)
    (p : Position) : missesScript (clearTiles place scope kind direction n p w).2 = false := by
  induction n generalizing p w with
  | zero => rfl
  | succ n ih =>
    rw [clearTiles]
    split
    · exact ih _ _
    · rfl

theorem destroyNamed_missesScript (name : String) :
    missesScript (destroyNamed place scope w name) = false := by
  unfold destroyNamed
  split
  · split <;> rfl
  · rfl

theorem destroy_missesScript (target : DestroyTarget) :
    missesScript (destroy place scope w target).2 = false := by
  cases target with
  | tiles run => exact clearTiles_missesScript place scope w _ _ _ _
  | named name =>
    have hnamed := destroyNamed_missesScript place scope w name
    simp only [destroy]
    cases h : destroyNamed place scope w name with
    | ok w => rfl
    | error e =>
      rw [h] at hnamed
      exact hnamed

theorem standIn_missesScript : missesScript (standIn place scope w actor) = false :=
  missesScript_bind (resolve_missesScript place scope w actor) fun _ => rfl

theorem standInEnd_missesScript : missesScript (standInEnd place scope w actor) = false := by
  refine missesScript_bind (resolve_missesScript place scope w actor) fun found => ?_
  simp only
  split <;> rfl

theorem updatedArg_missesScript (found : Actor) (key : String) (update : ArgUpdate) :
    missesScript (updatedArg scope w found key update) = false := by
  unfold updatedArg
  split
  · rfl
  · rfl
  · split <;> rfl

theorem setArg_missesScript (key : String) (update : ArgUpdate) :
    missesScript (setArg place scope w actor key update) = false := by
  refine missesScript_bind (resolve_missesScript place scope w actor) fun found => ?_
  exact missesScript_bind (updatedArg_missesScript scope w _ key update) fun _ => rfl

theorem face_missesScript (direction : Direction) :
    missesScript (face place scope w actor direction) = false :=
  missesScript_bind (resolve_missesScript place scope w actor) fun _ => rfl

theorem withQuests_missesScript (result : Except QuestError QuestLog) :
    missesScript (withQuests place scope w result) = false := by
  cases result <;> rfl

theorem attempt_missesScript (result : Except ScriptError World) :
    missesScript (attempt stage result).2 = missesScript result := by
  cases result <;> rfl

theorem afterWalk_missesScript (result : Except ScriptError (Handle × World)) :
    missesScript (afterWalk stage result).2 = missesScript result := by
  cases result <;> rfl

theorem perform_missesScript (action : Action) :
    missesScript (perform place scope stage action).2 = false := by
  cases action with
  | walk => exact (afterWalk_missesScript stage _).trans (walk_missesScript ..)
  | destroy => exact (missesScript_map _ _).trans (destroy_missesScript ..)
  | warp => exact (attempt_missesScript stage _).trans (warp_missesScript ..)
  | spawn => exact (attempt_missesScript stage _).trans (spawn_missesScript ..)
  | standIn => exact (attempt_missesScript stage _).trans (standIn_missesScript ..)
  | standInEnd => exact (attempt_missesScript stage _).trans (standInEnd_missesScript ..)
  | setArg => exact (attempt_missesScript stage _).trans (setArg_missesScript ..)
  | face => exact (attempt_missesScript stage _).trans (face_missesScript ..)
  | startQuest | finishQuest | startStep | finishStep | revealHint =>
    exact (attempt_missesScript stage _).trans (withQuests_missesScript ..)
  | text line awaitInput => cases awaitInput <;> rfl
  | _ => rfl

end MissesScript

end StoryEngine.Dispatch
