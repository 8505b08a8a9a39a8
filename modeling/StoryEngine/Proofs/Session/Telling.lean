import Mathlib.Data.List.Induction
import StoryEngine.Session.State

/-! # Telling a script without a session

A script that does not steer its run can be told by going through its lines once. A line whose
conditions fail is left out, and the first action that fails ends the tale. Neither the clock nor
the timers matter to what is told.
-/

namespace StoryEngine

set_option autoImplicit false

/-- An action that decides where a run goes on, or lets it wait for walkers. -/
def Action.steers : Action → Bool
  | .jump _ | .unjump _ | .startEvent _ | .endEvent _ | .forceEnd | .question _ _ | .walk _ _ =>
    true
  | _ => false

def Script.IsStraight (script : Script) : Prop :=
  ∀ line ∈ script.lines, ∀ action ∈ line.actions, action.steers = false

instance (script : Script) : Decidable script.IsStraight :=
  inferInstanceAs (Decidable (∀ line ∈ script.lines, ∀ action ∈ line.actions, _ = _))

/-- What a directive shows to the player. A question is none of it. -/
def Directive.shown? (script : String) : Directive → Option Output
  | .show line => some (.text script line false)
  | .awaitInput line none => some (.text script line true)
  | .transition target => some (.transition script target)
  | _ => none

/-- What straight actions ask of a session. -/
inductive Directive.Plain : Directive → Prop where
  | proceed : Plain .proceed
  | «show» (line : TextLine) : Plain (.show line)
  | prompt (line : TextLine) : Plain (.awaitInput line none)
  | pause (timer : String) : Plain (.pause timer)
  | transition (target : Transition) : Plain (.transition target)

/-- The world when the actor that set a script off is no longer needed. -/
def Script.leave (script : Script) (master : Option Handle) (w : World) : World :=
  match script.destroy, master with
  | some .afterTrigger, some h => w.despawn h
  | _, _ => w

structure Tale where
  world : World
  shown : List Output
  passed : List (ScriptLine × Bool)
  failure : Option ScriptError
deriving DecidableEq

namespace Tale

def pass (tale : Tale) (line : ScriptLine) (held : Bool) : Tale :=
  { tale with passed := tale.passed ++ [(line, held)] }

/-- Goes on with what came of some actions. -/
def goOn (tale : Tale) (script : String) (r : Stage × List Directive × Option ScriptError) :
    Tale :=
  { tale with
    world := r.1.world
    shown := tale.shown ++ r.2.1.filterMap (Directive.shown? script)
    failure := r.2.2 }

variable (map : GridMap) (script : String) (master : Option Handle)

def tellLine (tale : Tale) (line : ScriptLine) : Tale :=
  if tale.failure.isSome then tale
  else if Condition.allHold line.conditions tale.world master then
    (tale.pass line true).goOn script
      (Dispatch.performAll ⟨map, 0⟩ ⟨script, master, ""⟩ ⟨tale.world, ∅⟩ line.actions)
  else tale.pass line false

def tell (w : World) (lines : List ScriptLine) : Tale :=
  lines.foldl (tellLine map script master) ⟨w, [], [], none⟩

variable (w : World) (lines rest : List ScriptLine) (line : ScriptLine)

theorem tell_snoc :
    tell map script master w (lines ++ [line]) =
      tellLine map script master (tell map script master w lines) line :=
  List.foldl_append

variable {map script master line}

theorem tellLine_of_held {tale : Tale} (hfailure : tale.failure = none)
    (hheld : Condition.allHold line.conditions tale.world master = true) :
    tellLine map script master tale line = (tale.pass line true).goOn script
      (Dispatch.performAll ⟨map, 0⟩ ⟨script, master, ""⟩ ⟨tale.world, ∅⟩ line.actions) := by
  simp [tellLine, hfailure, hheld]

theorem tellLine_of_not_held {tale : Tale} (hfailure : tale.failure = none)
    (hheld : Condition.allHold line.conditions tale.world master = false) :
    tellLine map script master tale line = tale.pass line false := by
  simp [tellLine, hfailure, hheld]

variable (map script master)

/-- Nothing is told after a failure. -/
theorem tell_append_of_failure (h : (tell map script master w lines).failure ≠ none) :
    tell map script master w (lines ++ rest) = tell map script master w lines := by
  induction rest using List.reverseRecOn with
  | nil => rw [List.append_nil]
  | append_singleton rest line ih =>
    rw [← List.append_assoc, tell_snoc, ih, tellLine, if_pos (Option.isSome_iff_ne_none.mpr h)]

/-- The lines are passed in order, none twice, and all of them if nothing fails. -/
theorem tell_passed :
    (tell map script master w lines).passed.map Prod.fst <+: lines ∧
      ((tell map script master w lines).failure = none →
        (tell map script master w lines).passed.map Prod.fst = lines) := by
  induction lines using List.reverseRecOn with
  | nil => exact ⟨List.prefix_refl _, fun _ => rfl⟩
  | append_singleton lines line ih =>
    obtain ⟨hfront, hall⟩ := ih
    rw [tell_snoc]
    generalize tell map script master w lines = tale at *
    by_cases hfailure : tale.failure = none
    · have hlines := hall hfailure
      cases hheld : Condition.allHold line.conditions tale.world master with
      | true =>
        rw [tellLine_of_held hfailure hheld]
        simp [goOn, pass, hlines]
      | false =>
        rw [tellLine_of_not_held hfailure hheld]
        simp [pass, hlines]
    · rw [tellLine, if_pos (Option.isSome_iff_ne_none.mpr hfailure)]
      exact ⟨hfront.trans (List.prefix_append _ _), fun h => absurd h hfailure⟩

end Tale

namespace Dispatch

theorem attempt_plain {stage : Stage} {result : Except ScriptError World} {directive : Directive}
    (h : (attempt stage result).2 = .ok directive) : directive.Plain := by
  cases result with
  | error e => cases h
  | ok w =>
    cases h
    exact .proceed

theorem afterDestroy_plain {stage : Stage} {result : World × Except ScriptError Unit}
    {directive : Directive} (h : (afterDestroy stage result).2 = .ok directive) :
    directive.Plain := by
  obtain ⟨w, result⟩ := result
  cases result with
  | error e => cases h
  | ok _ =>
    cases h
    exact .proceed

theorem perform_plain {place : Place} {scope : Scope} {stage : Stage} {action : Action}
    {directive : Directive} (hstraight : action.steers = false)
    (h : (perform place scope stage action).2 = .ok directive) : directive.Plain := by
  cases action with
  | jump | unjump | startEvent | endEvent | forceEnd | question | walk => cases hstraight
  | text line awaitInput =>
    cases awaitInput with
    | true =>
      cases h
      exact .prompt line
    | false =>
      cases h
      exact .show line
  | teleport | forceCombat =>
    cases h
    exact .transition _
  | wait =>
    cases h
    exact .pause _
  | warp | spawn | standIn | standInEnd | setArg | startQuest | finishQuest | startStep
  | finishStep | revealHint | face => exact attempt_plain h
  | destroy => exact afterDestroy_plain h
  | _ =>
    cases h
    exact .proceed

/-- What can be seen of an action: the world after it, and what it shows or why it failed. -/
def seen (script : String) (r : Result) : World × Except ScriptError (Option Output) :=
  (r.1.world, r.2.map (Directive.shown? script))

variable (map : GridMap) (script : String) (master : Option Handle) (now now' : Tick)
  (timerScope timerScope' : String)

theorem clearTiles_clock (kind : String) (direction : Direction) (count : Nat) (p : Position)
    (w : World) :
    clearTiles ⟨map, now⟩ ⟨script, master, timerScope⟩ kind direction count p w =
      clearTiles ⟨map, now'⟩ ⟨script, master, timerScope'⟩ kind direction count p w := by
  induction count generalizing p w with
  | zero => rfl
  | succ n ih =>
    rw [clearTiles, clearTiles, ih]
    rfl

variable (w : World) (timers timers' : Timers)

theorem seen_attempt (result : Except ScriptError World) :
    seen script (attempt ⟨w, timers⟩ result) = seen script (attempt ⟨w, timers'⟩ result) := by
  cases result <;> rfl

theorem seen_afterWalk (result : Except ScriptError (Handle × World)) :
    seen script (afterWalk ⟨w, timers⟩ result) = seen script (afterWalk ⟨w, timers'⟩ result) := by
  cases result <;> rfl

theorem perform_clock (action : Action) :
    seen script (perform ⟨map, now⟩ ⟨script, master, timerScope⟩ ⟨w, timers⟩ action) =
      seen script (perform ⟨map, now'⟩ ⟨script, master, timerScope'⟩ ⟨w, timers'⟩ action) := by
  cases action with
  | text line awaitInput => cases awaitInput <;> rfl
  | walk => exact seen_afterWalk script w timers timers' _
  | destroy target =>
    cases target with
    | named name => rfl
    | tiles run =>
      simp only [perform, destroy]
      rw [clearTiles_clock map script master now now' timerScope timerScope']
      rfl
  | warp | spawn | standIn | standInEnd | setArg | startQuest | finishQuest | startStep
  | finishStep | revealHint | face => exact seen_attempt script w timers timers' _
  | _ => rfl

/-- What can be seen of some actions. -/
def seenAll (script : String) (r : Stage × List Directive × Option ScriptError) :
    World × List Output × Option ScriptError :=
  (r.1.world, r.2.1.filterMap (Directive.shown? script), r.2.2)

theorem performAll_clock (actions : List Action) :
    seenAll script
        (performAll ⟨map, now⟩ ⟨script, master, timerScope⟩ ⟨w, timers⟩ actions) =
      seenAll script
        (performAll ⟨map, now'⟩ ⟨script, master, timerScope'⟩ ⟨w, timers'⟩ actions) := by
  induction actions generalizing w timers timers' with
  | nil => rfl
  | cons action rest ih =>
    have hseen := perform_clock map script master now now' timerScope timerScope' w timers timers'
      action
    rw [performAll, performAll]
    generalize perform ⟨map, now⟩ _ _ action = done at *
    generalize perform ⟨map, now'⟩ _ _ action = done' at *
    obtain ⟨⟨v, left⟩, result⟩ := done
    obtain ⟨⟨v', left'⟩, result'⟩ := done'
    obtain ⟨hworld, hresult⟩ := Prod.mk.inj hseen
    simp only at hworld
    subst hworld
    cases result with
    | error e => cases result' with
      | error e' =>
        cases hresult
        rfl
      | ok d' => cases hresult
    | ok d => cases result' with
      | error e' => cases hresult
      | ok d' =>
        have hshown : d.shown? script = d'.shown? script := Except.ok.inj hresult
        have hrest := ih v left left'
        simp only [seenAll, Prod.mk.injEq, List.filterMap_cons] at hrest ⊢
        simp only [hrest, hshown, and_self]

end Dispatch

theorem Tale.goOn_eq_of_seenAll_eq {tale : Tale} {script : String}
    {r r' : Stage × List Directive × Option ScriptError}
    (h : Dispatch.seenAll script r = Dispatch.seenAll script r') :
    tale.goOn script r = tale.goOn script r' := by
  obtain ⟨hworld, h⟩ := Prod.mk.inj h
  obtain ⟨hshown, hfailure⟩ := Prod.mk.inj h
  rw [goOn, goOn, hworld, hshown, hfailure]

end StoryEngine
