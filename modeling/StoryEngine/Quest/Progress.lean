import StoryEngine.Collection.StringSet

/-! # Quest progress

Marks are only ever added: a quest or step that ended in one way may later be marked with the other
as well.
-/

namespace StoryEngine

set_option autoImplicit false

inductive Outcome where
  | completed
  | failed
deriving DecidableEq

structure Progress where
  started : Bool
  completed : Bool
  failed : Bool
deriving DecidableEq

namespace Progress

def untouched : Progress := ⟨false, false, false⟩

def isUntouched (p : Progress) : Bool := !p.started && !p.completed && !p.failed

def inProgress (p : Progress) : Bool := p.started && !p.completed && !p.failed

def finished (p : Progress) : Bool := p.completed || p.failed

def start (p : Progress) : Progress := { p with started := true }

def finish (p : Progress) : Outcome → Progress
  | .completed => { p with started := true, completed := true }
  | .failed => { p with started := true, failed := true }

theorem isUntouched_iff (p : Progress) : p.isUntouched = true ↔ p = untouched := by
  rcases p with ⟨⟨⟩, ⟨⟩, ⟨⟩⟩ <;> simp [isUntouched, untouched]

end Progress

/-- What is recorded of one quest. -/
structure QuestState where
  progress : Progress
  steps : StringMap Progress
  hints : StringSet
deriving DecidableEq

namespace QuestState

def untouched : QuestState := ⟨.untouched, ∅, ∅⟩

def isUntouched (s : QuestState) : Bool :=
  s.progress.isUntouched && s.steps.values.all Progress.isUntouched && s.hints.isEmpty

/-- Forgets the steps on which nothing is marked. -/
def sparse (s : QuestState) : QuestState :=
  { s with steps := s.steps.filter fun _ step => !step.isUntouched }

def step (s : QuestState) (id : String) : Progress := (s.steps.get? id).getD .untouched

end QuestState

end StoryEngine
