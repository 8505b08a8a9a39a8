import StoryEngine.Proofs.Quest.Growth
import StoryEngine.Script.Condition

/-! # How quests and steps end

Requests are served one after the other, from an empty journal. A quest or a step has ended in a
way exactly if it was finished so and the catalog lists it. One way of ending does not rule out the
other: what is finished in both ways is completed and failed from then on.
-/

namespace StoryEngine

set_option autoImplicit false

namespace Progress

def hasEnded (p : Progress) : Outcome → Bool
  | .completed => p.completed
  | .failed => p.failed

theorem hasEnded_start (p : Progress) (outcome : Outcome) :
    p.start.hasEnded outcome = p.hasEnded outcome := by
  cases outcome <;> rfl

/-- Ending in one way leaves alone what is marked of the other. -/
theorem hasEnded_finish (p : Progress) (first outcome : Outcome) :
    (p.finish first).hasEnded outcome = true ↔ first = outcome ∨ p.hasEnded outcome = true := by
  cases first <;> cases outcome <;> simp [finish, hasEnded]

end Progress

namespace QuestLog

/-- The journal after requests; those that fail leave it as it is. -/
def serveAll (log : QuestLog) (requests : List Request) : QuestLog :=
  requests.foldl (fun log request => (log.serve request).2) log

/-- A quest, or a step of one. -/
inductive Task where
  | ofQuest (quest : String)
  | ofStep (quest step : String)
deriving DecidableEq

namespace Task

/-- The quest in whose record a task is marked. -/
def owner : Task → String
  | ofQuest quest | ofStep quest _ => quest

def marksIn (s : QuestState) : Task → Progress
  | ofQuest _ => s.progress
  | ofStep _ step => s.step step

def marks (task : Task) (log : QuestLog) : Progress := task.marksIn (log.state task.owner)

def finish (outcome : Outcome) : Task → Request
  | ofQuest quest => .finishQuest quest outcome
  | ofStep quest step => .finishStep quest step outcome

/-- The test of a condition on the task. -/
def asks (check : QuestCheck) : Task → Predicate
  | ofQuest quest => .quest quest check
  | ofStep quest step => .step quest step check

variable (task : Task) (log : QuestLog) (outcome : Outcome)

theorem quest_finish : (task.finish outcome).quest = task.owner := by cases task <;> rfl

theorem holds_asks (check : QuestCheck) (w : World) (master : Option Handle) :
    (task.asks check).holds w master = check.test (task.marks w.quests) := by
  cases task <;> rfl

/-- A request for the quest of a task ends the task if it is the one to finish it, and otherwise
leaves its end open. -/
theorem hasEnded_mark {request : Request} (h : task.owner = request.quest) (s : QuestState) :
    (task.marksIn (request.mark s)).hasEnded outcome = true ↔
      request = task.finish outcome ∨ (task.marksIn s).hasEnded outcome = true := by
  cases task with
  | ofQuest quest =>
    change quest = request.quest at h
    subst h
    cases request <;>
      simp [marksIn, finish, Request.mark, Request.quest, Progress.hasEnded_start,
        Progress.hasEnded_finish]
  | ofStep quest step =>
    change quest = request.quest at h
    subst h
    cases request with
    | startQuest | finishQuest | revealHint =>
      simp [marksIn, finish, Request.mark, QuestState.step]
    | startStep quest other =>
      simp only [marksIn, Request.mark, step_insert, finish, reduceCtorEq, false_or]
      split
      · next heq => rw [Progress.hasEnded_start, heq]
      · rfl
    | finishStep quest other first =>
      simp only [marksIn, Request.mark, step_insert, finish, Request.finishStep.injEq, Request.quest]
      split
      · next heq => simp [Progress.hasEnded_finish, heq]
      · next hne => simp [Ne.symm hne]

theorem hasEnded_update (request : Request) :
    (task.marks (log.update request.quest request.mark)).hasEnded outcome = true ↔
      request = task.finish outcome ∨ (task.marks log).hasEnded outcome = true := by
  rw [marks, state_update]
  split
  · next h => rw [task.hasEnded_mark outcome h, marks, h]
  · next h =>
    have hother : request ≠ task.finish outcome := by
      rintro rfl
      exact h (task.quest_finish outcome).symm
    rw [or_iff_right hother, marks]

theorem hasEnded_serve (request : Request) :
    (task.marks (log.serve request).2).hasEnded outcome = true ↔
      (request = task.finish outcome ∧ request.Listed log.catalog) ∨
        (task.marks log).hasEnded outcome = true := by
  obtain ⟨hlisted, h⟩ | ⟨hunlisted, h⟩ := log.serve_cases request
  · rw [h, hasEnded_update, and_iff_left hlisted]
  · rw [h, or_iff_right fun hasked => hunlisted hasked.2]

/-- Whatever the order of the requests and however often they come, a task ends in a way if it is
asked to, and never for another reason. -/
theorem hasEnded_serveAll (requests : List Request) :
    (task.marks (log.serveAll requests)).hasEnded outcome = true ↔
      (task.finish outcome ∈ requests ∧ (task.finish outcome).Listed log.catalog) ∨
        (task.marks log).hasEnded outcome = true := by
  induction requests generalizing log with
  | nil => simp [serveAll]
  | cons request rest ih =>
    -- No request changes the catalog: what it lists now is what it lists for the rest.
    have hnext := ih (log.serve request).2
    rw [catalog_serve, hasEnded_serve] at hnext
    refine hnext.trans ?_
    rw [List.mem_cons]
    constructor
    · rintro (⟨hrest, hlisted⟩ | ⟨hfirst, hlisted⟩ | hbefore)
      · exact .inl ⟨.inr hrest, hlisted⟩
      · exact .inl ⟨.inl hfirst.symm, hfirst ▸ hlisted⟩
      · exact .inr hbefore
    · rintro (⟨hfirst | hrest, hlisted⟩ | hbefore)
      · exact .inr (.inl ⟨hfirst.symm, hfirst ▸ hlisted⟩)
      · exact .inl ⟨hrest, hlisted⟩
      · exact .inr (.inr hbefore)

end Task

/-- A quest or a step is completed exactly if it was finished so, and failed exactly if it was
finished so. It is both, and conditions for both hold of it, exactly if it was finished in both
ways. -/
theorem ended_both_ways_iff (catalog : QuestCatalog) (requests : List Request) (task : Task)
    (world : World) (master : Option Handle) :
    let w : World := { world with quests := (blank catalog).serveAll requests }
    let marks := task.marks w.quests
    let finishedAs := fun outcome =>
      task.finish outcome ∈ requests ∧ (task.finish outcome).Listed catalog
    (marks.completed = true ↔ finishedAs .completed) ∧
      (marks.failed = true ↔ finishedAs .failed) ∧
      (marks.completed = true ∧ marks.failed = true ↔ ∀ outcome, finishedAs outcome) ∧
      ((task.asks .completed).holds w master = true ∧ (task.asks .failed).holds w master = true ↔
        ∀ outcome, finishedAs outcome) := by
  intro w marks finishedAs
  have hended (outcome : Outcome) : marks.hasEnded outcome = true ↔ finishedAs outcome := by
    have hblank : (task.marks (blank catalog)).hasEnded outcome = false := by
      cases task <;> cases outcome <;> rfl
    have hall := task.hasEnded_serveAll (blank catalog) outcome requests
    rw [hblank, or_iff_left Bool.false_ne_true] at hall
    exact hall
  have hboth : marks.completed = true ∧ marks.failed = true ↔ ∀ outcome, finishedAs outcome := by
    rw [show marks.completed = marks.hasEnded .completed from rfl, hended,
      show marks.failed = marks.hasEnded .failed from rfl, hended]
    constructor
    · rintro ⟨hcompleted, hfailed⟩ (_ | _)
      · exact hcompleted
      · exact hfailed
    · exact fun h => ⟨h .completed, h .failed⟩
  refine ⟨hended .completed, hended .failed, hboth, ?_⟩
  rw [task.holds_asks, task.holds_asks]
  exact hboth

/-- The ferry is brought across, and is lost all the same. -/
theorem ferry_is_completed_and_failed :
    let catalog : QuestCatalog := .ofList [("ferry", ⟨["row"], []⟩)]
    let log := (blank catalog).serveAll
      [.finishQuest "ferry" .completed, .finishQuest "ferry" .failed,
        .finishStep "ferry" "row" .failed, .finishStep "ferry" "row" .completed]
    let w : World := { World.blank catalog with quests := log }
    log.quest "ferry" = ⟨true, true, true⟩ ∧ log.step "ferry" "row" = ⟨true, true, true⟩ ∧
      (Predicate.quest "ferry" .completed).holds w none = true ∧
      (Predicate.quest "ferry" .failed).holds w none = true := by
  decide +kernel

end QuestLog

end StoryEngine
