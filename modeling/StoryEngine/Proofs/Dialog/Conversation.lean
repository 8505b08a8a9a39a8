import StoryEngine.Dialog.Respond

/-! # Conversations

A keyword that nobody answers, or whose answer fails on the way, leaves world and timers as they
were. The world is put back after a failure; the timers need not be, since events of a dialog do not
wait. A conversation therefore goes the same way when such keywords are left out of it.
-/

namespace StoryEngine

set_option autoImplicit false

namespace Dispatch

variable (place : Place) (scope : Scope) (stage : Stage)

theorem attempt_timers (result : Except ScriptError World) :
    (attempt stage result).1.timers = stage.timers := by
  cases result <;> rfl

theorem afterWalk_timers (result : Except ScriptError (Handle × World)) :
    (afterWalk stage result).1.timers = stage.timers := by
  cases result <;> rfl

/-- Waiting is the one action that starts a timer, and none stops one. -/
theorem perform_timers {action : Action} (h : Dialog.isWait action = false) :
    (perform place scope stage action).1.timers = stage.timers := by
  cases action with
  | wait => cases h
  | walk => exact afterWalk_timers stage _
  | text line awaitInput => cases awaitInput <;> rfl
  | warp | spawn | standIn | standInEnd | setArg | startQuest | finishQuest | startStep
  | finishStep | revealHint | face => exact attempt_timers stage _
  | _ => rfl

end Dispatch

namespace Dialog

theorem note_matched (response : DialogResponse) (directive : Directive) :
    (note response directive).matched = response.matched := by
  cases directive <;> rfl

theorem happen_timers (place : Place) (scope : Scope) (stage : Stage) (response : DialogResponse)
    (events : List Action) :
    (happen place scope stage response events).1.timers = stage.timers := by
  induction events generalizing stage response with
  | nil => rfl
  | cons action rest ih =>
    rw [happen]
    split
    · exact ih stage response
    · next hwait =>
      have htimers := Dispatch.perform_timers place scope stage (Bool.not_eq_true _ ▸ hwait)
      split
      · next after e h =>
        rw [h] at htimers
        exact htimers
      · next after directive h =>
        rw [h] at htimers
        exact (ih after (note response directive)).trans htimers

/-- No keyword starts or stops a timer. -/
theorem respond_timers (parlance : Parlance) (table : DialogTable) (typed : String) (place : Place)
    (npc : Option Handle) (stage : Stage) :
    (respond parlance table typed place npc stage).1.timers = stage.timers := by
  unfold respond
  simp only
  split
  · rfl
  · next entry _ =>
    have htimers := happen_timers place (scope table npc) stage
      ⟨table.resolve typed stage.world.lastKeyword, true, [], [], [], [], false⟩ entry.events
    split
    · next after e hfailed =>
      rw [hfailed] at htimers
      exact htimers
    · next after response hdone =>
      rw [hdone] at htimers
      exact htimers

theorem happen_matched {place : Place} {scope : Scope} {stage : Stage}
    {response after : DialogResponse} {events : List Action}
    (h : (happen place scope stage response events).2 = .ok after) :
    after.matched = response.matched := by
  induction events generalizing stage response with
  | nil =>
    cases h
    rfl
  | cons action rest ih =>
    rw [happen] at h
    split at h
    · exact ih h
    · split at h
      · cases h
      · exact (ih h).trans (note_matched _ _)

/-- A keyword is answered or leaves no trace. -/
theorem respond_cases (parlance : Parlance) (table : DialogTable) (typed : String) (place : Place)
    (npc : Option Handle) (stage : Stage) :
    (∃ response, (respond parlance table typed place npc stage).2 = .ok response ∧
      response.matched = true) ∨
    (respond parlance table typed place npc stage).1 = stage := by
  unfold respond
  simp only
  split
  · exact .inr rfl
  · next entry _ =>
    have htimers := happen_timers place (scope table npc) stage
      ⟨table.resolve typed stage.world.lastKeyword, true, [], [], [], [], false⟩ entry.events
    split
    · next after e hfailed =>
      rw [hfailed] at htimers
      exact .inr (congrArg (Stage.mk stage.world) htimers)
    · next after response hdone =>
      have hmatched := happen_matched (congrArg Prod.snd hdone)
      exact .inl ⟨_, rfl, hmatched⟩

/-- A keyword that someone types: whom it is said to, where and when. -/
structure Remark where
  table : DialogTable
  typed : String
  place : Place
  npc : Option Handle
deriving DecidableEq

abbrev Reply := Except ScriptError DialogResponse

def answer (parlance : Parlance) (stage : Stage) (remark : Remark) : Stage × Reply :=
  respond parlance remark.table remark.typed remark.place remark.npc stage

/-- The stage after some keywords, and each of them with its reply. -/
def converse (parlance : Parlance) (stage : Stage) :
    List Remark → Stage × List (Remark × Reply)
  | [] => (stage, [])
  | remark :: rest =>
    let (next, reply) := answer parlance stage remark
    let (last, exchanges) := converse parlance next rest
    (last, (remark, reply) :: exchanges)

/-- Whether a keyword was answered by an entry of the table. -/
def isMatched : Reply → Bool
  | .ok response => response.matched
  | .error _ => false

theorem answer_of_not_matched {parlance : Parlance} {stage : Stage} {remark : Remark}
    (h : isMatched (answer parlance stage remark).2 = false) :
    (answer parlance stage remark).1 = stage := by
  rcases respond_cases parlance remark.table remark.typed remark.place remark.npc stage with
    ⟨response, hreply, hmatched⟩ | hsame
  · rw [answer, hreply, isMatched, hmatched] at h
    cases h
  · exact hsame

theorem converse_remarks (parlance : Parlance) (stage : Stage) (remarks : List Remark) :
    (converse parlance stage remarks).2.map Prod.fst = remarks := by
  induction remarks generalizing stage with
  | nil => rfl
  | cons remark rest ih => exact congrArg (remark :: ·) (ih (answer parlance stage remark).1)

/-- A keyword that fails or is not matched leaves everything as it was, and a conversation without
such keywords ends the same way, with the same replies to all the others. -/
theorem unanswered_leave_no_trace (parlance : Parlance) (stage : Stage) (remarks : List Remark) :
    (∀ stage remark, isMatched (answer parlance stage remark).2 = false →
      (answer parlance stage remark).1 = stage) ∧
    (converse parlance stage remarks).2.map Prod.fst = remarks ∧
    let answered := (converse parlance stage remarks).2.filter fun exchange =>
      isMatched exchange.2
    converse parlance stage (answered.map Prod.fst) =
      ((converse parlance stage remarks).1, answered) := by
  refine ⟨fun stage remark => answer_of_not_matched, converse_remarks parlance stage remarks, ?_⟩
  induction remarks generalizing stage with
  | nil => rfl
  | cons remark rest ih =>
    simp only [converse]
    cases hmatched : isMatched (answer parlance stage remark).2 with
    | false =>
      rw [List.filter_cons_of_neg (by simpa using hmatched), answer_of_not_matched hmatched]
      exact ih stage
    | true =>
      rw [List.filter_cons_of_pos (by simpa using hmatched), List.map_cons, converse]
      simp only [ih]

/-- An ale is given and taken back, since nobody is there to turn round; nobody knows of tea. -/
theorem only_greeting_leaves_trace :
    let parlance : Parlance := ⟨∅, defaultNoMatch⟩
    let ale : DialogEntry :=
      ⟨["Here you go."], none, [], [.giveItem "ale" 1, .face .master .north], []⟩
    let table : DialogTable := ⟨"Innkeeper", ∅, ∅, none, none,
      .ofList [("ale", [ale]), ("hi", [⟨["Welcome!"], none, [], [], []⟩])]⟩
    let say : String → Remark := fun typed => ⟨table, typed, ⟨.blank "inn" 8 8, 0⟩, none⟩
    let stage : Stage := ⟨.blank ∅, ∅⟩
    let talk := converse parlance stage [say "ale", say "tea", say "hi"]
    ((talk.2.filter fun exchange => isMatched exchange.2).map Prod.fst) = [say "hi"] ∧
      (answer parlance stage (say "ale")).1 = stage ∧
      (converse parlance stage [say "hi"]).1 = talk.1 := by
  intro parlance ale table say stage talk
  obtain ⟨hsame, _, htalk⟩ :=
    unanswered_leave_no_trace parlance stage [say "ale", say "tea", say "hi"]
  have hanswered : (talk.2.filter fun exchange => isMatched exchange.2).map Prod.fst =
      [say "hi"] := by
    decide +kernel
  refine ⟨hanswered, hsame stage (say "ale") (by decide +kernel), ?_⟩
  have hlast := congrArg Prod.fst htalk
  rw [← hanswered]
  exact hlast

end Dialog

end StoryEngine
