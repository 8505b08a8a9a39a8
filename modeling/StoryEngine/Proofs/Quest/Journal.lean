import StoryEngine.Proofs.Result
import StoryEngine.Quest.Log

/-! # The journal kept in place

A journal is one log that every request changes where it stands: a record is opened, the quest is
started, the step is entered, and what has been written stays when something after it fails. The
operations on logs come to the same, since every check is made before the first word is written.
-/

namespace StoryEngine

set_option autoImplicit false

def Progress.close (p : Progress) : Outcome → Progress
  | .completed => { p with completed := true }
  | .failed => { p with failed := true }

theorem Progress.close_start (p : Progress) (outcome : Outcome) :
    p.start.close outcome = p.finish outcome := by
  cases outcome <;> rfl

namespace QuestLog

inductive Request where
  | startQuest (quest : String)
  | finishQuest (quest : String) (outcome : Outcome)
  | startStep (quest step : String)
  | finishStep (quest step : String) (outcome : Outcome)
  | revealHint (quest hint : String)
deriving DecidableEq

def perform (log : QuestLog) : Request → Except QuestError QuestLog
  | .startQuest quest => log.startQuest quest
  | .finishQuest quest outcome => log.finishQuest quest outcome
  | .startStep quest step => log.startStep quest step
  | .finishStep quest step outcome => log.finishStep quest step outcome
  | .revealHint quest hint => log.revealHint quest hint

namespace Request

def quest : Request → String
  | startQuest quest | finishQuest quest _ | startStep quest _ | finishStep quest _ _
  | revealHint quest _ => quest

/-- Whether the catalog's entry for the quest has what the request names besides the quest. -/
def isListed (known : QuestDef) : Request → Bool
  | startQuest _ | finishQuest _ _ => true
  | startStep _ step | finishStep _ step _ => known.steps.contains step
  | revealHint _ hint => known.hints.contains hint

def unlisted : Request → QuestError
  | startQuest quest | finishQuest quest _ => .unknownQuest quest
  | startStep quest step | finishStep quest step _ => .unknownStep quest step
  | revealHint quest hint => .unknownHint quest hint

/-- What becomes of the record of the quest. -/
def mark : Request → QuestState → QuestState
  | startQuest _, s => { s with progress := s.progress.start }
  | finishQuest _ outcome, s => { s with progress := s.progress.finish outcome }
  | startStep _ step, s =>
    { s with progress := s.progress.start, steps := s.steps.insert step (s.step step).start }
  | finishStep _ step outcome, s =>
    { s with
      progress := s.progress.start
      steps := s.steps.insert step ((s.step step).finish outcome) }
  | revealHint _ hint, s => { s with hints := s.hints.add hint }

end Request

theorem perform_eq (log : QuestLog) (request : Request) :
    log.perform request = log.definition request.quest >>= fun known =>
      if request.isListed known then .ok (log.update request.quest request.mark)
      else .error request.unlisted := by
  cases request <;> rfl

/-- Work on a journal, which may fail halfway. -/
abbrev Work := ExceptT QuestError (StateM QuestLog)

namespace Work

/-- How the work ends on a journal, and the journal as it is then. -/
def on {α : Type} (work : Work α) (log : QuestLog) : Except QuestError α × QuestLog :=
  work.run.run log

def definition (quest : String) : Work QuestDef := fun log => (log.definition quest, log)

def change (quest : String) (change : QuestState → QuestState) : Work Unit :=
  modify fun log => log.update quest change

/-- Opens the record of a quest if there is none. -/
def openRecord (quest : String) : Work Unit := do
  let _ ← definition quest
  change quest id

def markQuest (quest : String) (mark : Progress → Progress) : Work Unit :=
  change quest fun s => { s with progress := mark s.progress }

def markStep (quest step : String) (mark : Progress → Progress) : Work Unit :=
  change quest fun s => { s with steps := s.steps.insert step (mark (s.step step)) }

def openStep (quest step : String) : Work Unit := do
  let known ← definition quest
  if known.steps.contains step then
    openRecord quest
    markQuest quest .start
    markStep quest step id
  else throw (.unknownStep quest step)

def startQuest (quest : String) : Work Unit := do
  openRecord quest
  markQuest quest .start

def finishQuest (quest : String) (outcome : Outcome) : Work Unit := do
  openRecord quest
  markQuest quest .start
  markQuest quest (·.close outcome)

def startStep (quest step : String) : Work Unit := do
  openStep quest step
  markStep quest step .start

def finishStep (quest step : String) (outcome : Outcome) : Work Unit := do
  openStep quest step
  markStep quest step .start
  markStep quest step (·.close outcome)

def revealHint (quest hint : String) : Work Unit := do
  let known ← definition quest
  if known.hints.contains hint then
    openRecord quest
    change quest fun s => { s with hints := s.hints.add hint }
  else throw (.unknownHint quest hint)

def ofRequest : Request → Work Unit
  | .startQuest quest => startQuest quest
  | .finishQuest quest outcome => finishQuest quest outcome
  | .startStep quest step => startStep quest step
  | .finishStep quest step outcome => finishStep quest step outcome
  | .revealHint quest hint => revealHint quest hint

end Work

def serve (log : QuestLog) (request : Request) : Except QuestError Unit × QuestLog :=
  (Work.ofRequest request).on log

theorem update_update (log : QuestLog) (quest : String) (first second : QuestState → QuestState) :
    (log.update quest first).update quest second = log.update quest (second ∘ first) := by
  simp only [update, state, StringMap.get?_insert, StringMap.insert_insert, if_true,
    Option.getD_some, Function.comp]

theorem step_insert (s : QuestState) (progress : Progress) (step other : String) (p : Progress) :
    QuestState.step ⟨progress, s.steps.insert step p, s.hints⟩ other =
      if other = step then p else s.step other := by
  rw [QuestState.step, StringMap.get?_insert, QuestState.step]
  split <;> rfl

namespace Work

variable {α : Type} {log : QuestLog} {quest : String} {known : QuestDef}

theorem on_definition_of_known (h : log.definition quest = .ok known) (next : QuestDef → Work α) :
    (definition quest >>= next).on log = (next known).on log := by
  change ExceptT.bindCont next (log.definition quest) log = _
  rw [h]
  rfl

theorem on_definition_of_unknown {e : QuestError} (h : log.definition quest = .error e)
    (next : QuestDef → Work α) : (definition quest >>= next).on log = (.error e, log) := by
  change ExceptT.bindCont next (log.definition quest) log = _
  rw [h]
  rfl

theorem on_change (log : QuestLog) (quest : String) (mark : QuestState → QuestState) :
    (change quest mark).on log = (.ok (), log.update quest mark) := rfl

theorem on_change_bind (log : QuestLog) (quest : String) (mark : QuestState → QuestState)
    (next : Unit → Work α) :
    (change quest mark >>= next).on log = (next ()).on (log.update quest mark) := rfl

theorem on_openRecord (h : log.definition quest = .ok known) (next : Unit → Work α) :
    (openRecord quest >>= next).on log = (next ()).on (log.update quest id) := by
  rw [openRecord, bind_assoc, on_definition_of_known h, on_change_bind]

theorem on_openStep (h : log.definition quest = .ok known) {step : String}
    (hstep : known.steps.contains step = true) (next : Unit → Work α) :
    (openStep quest step >>= next).on log = (next ()).on (log.update quest fun s =>
      { s with progress := s.progress.start, steps := s.steps.insert step (s.step step) }) := by
  rw [openStep, bind_assoc, on_definition_of_known h, if_pos hstep, bind_assoc, on_openRecord h,
    markQuest, markStep, bind_assoc, on_change_bind, on_change_bind, update_update, update_update]
  rfl

theorem on_openStep_of_unlisted (h : log.definition quest = .ok known) {step : String}
    (hstep : ¬ known.steps.contains step = true) (next : Unit → Work α) :
    (openStep quest step >>= next).on log = (.error (.unknownStep quest step), log) := by
  rw [openStep, bind_assoc, on_definition_of_known h, if_neg hstep]
  rfl

theorem on_openStep_of_unknown {e : QuestError} (h : log.definition quest = .error e)
    {step : String} (next : Unit → Work α) :
    (openStep quest step >>= next).on log = (.error e, log) := by
  rw [openStep, bind_assoc, on_definition_of_unknown h]

theorem on_openRecord_of_unknown {e : QuestError} (h : log.definition quest = .error e)
    (next : Unit → Work α) : (openRecord quest >>= next).on log = (.error e, log) := by
  rw [openRecord, bind_assoc, on_definition_of_unknown h]

theorem on_startQuest (h : log.definition quest = .ok known) :
    (startQuest quest).on log =
      (.ok (), log.update quest fun s => { s with progress := s.progress.start }) := by
  rw [startQuest, on_openRecord h, markQuest, on_change, update_update]
  rfl

theorem on_finishQuest (h : log.definition quest = .ok known) (outcome : Outcome) :
    (finishQuest quest outcome).on log =
      (.ok (), log.update quest fun s => { s with progress := s.progress.finish outcome }) := by
  rw [finishQuest, on_openRecord h, markQuest, on_change_bind, markQuest, on_change, update_update,
    update_update]
  simp only [Function.comp_def, Progress.close_start, id]

theorem on_startStep (h : log.definition quest = .ok known) {step : String}
    (hstep : known.steps.contains step = true) :
    (startStep quest step).on log = (.ok (), log.update quest fun s =>
      { s with
        progress := s.progress.start
        steps := s.steps.insert step (s.step step).start }) := by
  rw [startStep, on_openStep h hstep, markStep, on_change, update_update]
  simp only [Function.comp_def, step_insert, if_true, StringMap.insert_insert]

theorem on_finishStep (h : log.definition quest = .ok known) {step : String}
    (hstep : known.steps.contains step = true) (outcome : Outcome) :
    (finishStep quest step outcome).on log = (.ok (), log.update quest fun s =>
      { s with
        progress := s.progress.start
        steps := s.steps.insert step ((s.step step).finish outcome) }) := by
  rw [finishStep, on_openStep h hstep, markStep, on_change_bind, markStep, on_change,
    update_update, update_update]
  simp only [Function.comp_def, step_insert, if_true, StringMap.insert_insert, Progress.close_start]

theorem on_revealHint (h : log.definition quest = .ok known) {hint : String}
    (hhint : known.hints.contains hint = true) :
    (revealHint quest hint).on log =
      (.ok (), log.update quest fun s => { s with hints := s.hints.add hint }) := by
  rw [revealHint, on_definition_of_known h, if_pos hhint, on_openRecord h, on_change,
    update_update]
  rfl

theorem on_revealHint_of_unlisted (h : log.definition quest = .ok known) {hint : String}
    (hhint : ¬ known.hints.contains hint = true) :
    (revealHint quest hint).on log = (.error (.unknownHint quest hint), log) := by
  rw [revealHint, on_definition_of_known h, if_neg hhint]
  rfl

end Work

variable {log : QuestLog} {request : Request} {known : QuestDef}

theorem serve_of_unknown {e : QuestError} (h : log.definition request.quest = .error e) :
    log.serve request = (.error e, log) := by
  cases request with
  | startQuest | finishQuest => exact Work.on_openRecord_of_unknown h _
  | startStep | finishStep => exact Work.on_openStep_of_unknown h _
  | revealHint => exact Work.on_definition_of_unknown h _

theorem serve_of_unlisted (h : log.definition request.quest = .ok known)
    (hlisted : ¬ request.isListed known = true) :
    log.serve request = (.error request.unlisted, log) := by
  -- The step or hint is looked up before the record of the quest is opened.
  cases request with
  | startQuest | finishQuest => exact absurd rfl hlisted
  | startStep | finishStep => exact Work.on_openStep_of_unlisted h hlisted _
  | revealHint => exact Work.on_revealHint_of_unlisted h hlisted

theorem serve_of_listed (h : log.definition request.quest = .ok known)
    (hlisted : request.isListed known = true) :
    log.serve request = (.ok (), log.update request.quest request.mark) := by
  cases request with
  | startQuest => exact Work.on_startQuest h
  | finishQuest quest outcome => exact Work.on_finishQuest h outcome
  | startStep => exact Work.on_startStep h hlisted
  | finishStep quest step outcome => exact Work.on_finishStep h hlisted outcome
  | revealHint => exact Work.on_revealHint h hlisted

/-- A request in place does what the operation on logs does, and leaves the journal as it was when
that one fails. -/
theorem serve_eq_perform (log : QuestLog) (request : Request) :
    log.serve request = match log.perform request with
      | .ok next => (.ok (), next)
      | .error e => (.error e, log) := by
  rw [perform_eq]
  cases h : log.definition request.quest with
  | error e => exact serve_of_unknown h
  | ok known =>
    by_cases hlisted : request.isListed known = true
    · simp only [bind, Except.bind, if_pos hlisted, serve_of_listed h hlisted]
    · simp only [bind, Except.bind, if_neg hlisted, serve_of_unlisted h hlisted]

end QuestLog

end StoryEngine
