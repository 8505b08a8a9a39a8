import StoryEngine.Quest.Progress

/-! # The quest log

A catalog lists the steps and hints of every quest. The log records progress for the quests of its
catalog only; an entry that the catalog does not list is refused and nothing changes.
-/

namespace StoryEngine

set_option autoImplicit false

structure QuestDef where
  steps : List String
  hints : List String
deriving DecidableEq

abbrev QuestCatalog := StringMap QuestDef

inductive QuestError where
  | unknownQuest (quest : String)
  | unknownStep (quest step : String)
  | unknownHint (quest hint : String)
deriving DecidableEq

def QuestError.message : QuestError → String
  | unknownQuest quest => s!"unknown quest '{quest}'"
  | unknownStep quest step => s!"quest '{quest}' has no step '{step}'"
  | unknownHint quest hint => s!"quest '{quest}' has no hint '{hint}'"

structure QuestLog where
  catalog : QuestCatalog
  states : StringMap QuestState
deriving DecidableEq

namespace QuestLog

def blank (catalog : QuestCatalog) : QuestLog := ⟨catalog, ∅⟩

def state (log : QuestLog) (quest : String) : QuestState :=
  (log.states.get? quest).getD .untouched

def quest (log : QuestLog) (quest : String) : Progress := (log.state quest).progress

def step (log : QuestLog) (quest step : String) : Progress := (log.state quest).step step

def hintRevealed (log : QuestLog) (quest hint : String) : Bool := (log.state quest).hints.has hint

def update (log : QuestLog) (quest : String) (change : QuestState → QuestState) : QuestLog :=
  { log with states := log.states.insert quest (change (log.state quest)) }

def definition (log : QuestLog) (quest : String) : Except QuestError QuestDef :=
  match log.catalog.get? quest with
  | some found => .ok found
  | none => .error (.unknownQuest quest)

def changeQuest (log : QuestLog) (quest : String) (change : Progress → Progress) :
    Except QuestError QuestLog := do
  let _ ← log.definition quest
  return log.update quest fun s => { s with progress := change s.progress }

/-- Marking a step also starts its quest, so that the step has a place in the journal. -/
def changeStep (log : QuestLog) (quest step : String) (change : Progress → Progress) :
    Except QuestError QuestLog := do
  let known ← log.definition quest
  if known.steps.contains step then
    return log.update quest fun s =>
      { s with
        progress := s.progress.start
        steps := s.steps.insert step (change (s.step step)) }
  else throw (.unknownStep quest step)

def startQuest (log : QuestLog) (quest : String) : Except QuestError QuestLog :=
  log.changeQuest quest .start

def finishQuest (log : QuestLog) (quest : String) (outcome : Outcome) :
    Except QuestError QuestLog :=
  log.changeQuest quest (·.finish outcome)

def startStep (log : QuestLog) (quest step : String) : Except QuestError QuestLog :=
  log.changeStep quest step .start

def finishStep (log : QuestLog) (quest step : String) (outcome : Outcome) :
    Except QuestError QuestLog :=
  log.changeStep quest step (·.finish outcome)

def revealHint (log : QuestLog) (quest hint : String) : Except QuestError QuestLog := do
  let known ← log.definition quest
  if known.hints.contains hint then
    return log.update quest fun s => { s with hints := s.hints.add hint }
  else throw (.unknownHint quest hint)

/-- The records on which something is marked. -/
def sparseStates (log : QuestLog) : StringMap QuestState :=
  (log.states.filter fun _ s => !s.isUntouched).map fun _ s => s.sparse

/-- Replaces what is recorded. Records of quests that the catalog does not list are dropped, and
their ids returned. -/
def restore (log : QuestLog) (states : StringMap QuestState) : List String × QuestLog :=
  let known := fun id (_ : QuestState) => log.catalog.contains id
  ((states.filter fun id s => !known id s).keys, { log with states := states.filter known })

end QuestLog

end StoryEngine
