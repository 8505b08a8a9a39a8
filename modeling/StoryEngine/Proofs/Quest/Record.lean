import StoryEngine.Proofs.Result
import StoryEngine.Quest.Log

/-! # What a quest log records

A log holds records of quests of its catalog only. Leaving out of a record what is not marked does
not change what is read from it.
-/

namespace StoryEngine

set_option autoImplicit false

namespace QuestState

/-- Two records of a quest read the same. -/
structure Alike (a b : QuestState) : Prop where
  progress : a.progress = b.progress
  step : ∀ id, a.step id = b.step id
  hint : ∀ id, a.hints.has id = b.hints.has id

theorem steps_untouched_iff {s : QuestState} :
    s.steps.values.all Progress.isUntouched = true ↔
      ∀ id p, s.steps.get? id = some p → p.isUntouched = true := by
  rw [List.all_eq_true]
  constructor
  · intro h id p hp
    exact h p (List.mem_map.mpr ⟨(id, p), StringMap.get?_eq_some_iff.mp hp, rfl⟩)
  · intro h p hp
    obtain ⟨⟨id, q⟩, hmem, hq⟩ := List.mem_map.mp hp
    cases hq
    exact h id q (StringMap.get?_eq_some_iff.mpr hmem)

theorem isUntouched_iff {s : QuestState} :
    s.isUntouched = true ↔ s.progress = .untouched ∧
      (∀ id p, s.steps.get? id = some p → p.isUntouched = true) ∧ s.hints = ∅ := by
  rw [isUntouched, Bool.and_eq_true, Bool.and_eq_true, Progress.isUntouched_iff,
    steps_untouched_iff, StringMap.isEmpty_iff, and_assoc]

theorem alike_untouched {s : QuestState} (h : s.isUntouched = true) : Alike .untouched s := by
  obtain ⟨hprogress, hsteps, hhints⟩ := isUntouched_iff.mp h
  refine ⟨hprogress.symm, fun id => ?_, fun id => by rw [hhints]; rfl⟩
  rw [step, step]
  cases hp : s.steps.get? id with
  | none => rfl
  | some p => exact ((Progress.isUntouched_iff p).mp (hsteps id p hp)).symm

theorem get?_steps_sparse (s : QuestState) (id : String) :
    s.sparse.steps.get? id = (s.steps.get? id).filter fun p => !p.isUntouched :=
  StringMap.get?_filter s.steps _ id

theorem step_sparse (s : QuestState) (id : String) : s.sparse.step id = s.step id := by
  rw [step, get?_steps_sparse, step]
  cases s.steps.get? id with
  | none => rfl
  | some p =>
    cases hp : p.isUntouched with
    | false => rw [Option.filter_some, hp]; rfl
    | true => rw [Option.filter_some, hp, (Progress.isUntouched_iff p).mp hp]; rfl

theorem alike_sparse (s : QuestState) : Alike s.sparse s :=
  ⟨rfl, s.step_sparse, fun _ => rfl⟩

theorem isUntouched_sparse (s : QuestState) : s.sparse.isUntouched = s.isUntouched := by
  rw [Bool.eq_iff_iff, isUntouched_iff, isUntouched_iff]
  refine and_congr_right fun _ => and_congr_left fun _ => ?_
  constructor
  · intro h id p hp
    cases huntouched : p.isUntouched with
    | true => rfl
    | false =>
      have hkept : s.sparse.steps.get? id = some p := by
        rw [get?_steps_sparse, hp, Option.filter_some, huntouched]
        rfl
      exact huntouched.symm.trans (h id p hkept)
  · intro h id p hp
    rw [get?_steps_sparse] at hp
    exact h id p (Option.filter_eq_some_iff.mp hp).1

theorem sparse_eq_self {s : QuestState}
    (h : ∀ id p, s.steps.get? id = some p → (!p.isUntouched) = true) : s.sparse = s := by
  rw [sparse, StringMap.filter_eq_self h]

theorem sparse_sparse (s : QuestState) : s.sparse.sparse = s.sparse :=
  sparse_eq_self fun id p hp => by
    rw [get?_steps_sparse] at hp
    exact (Option.filter_eq_some_iff.mp hp).2

end QuestState

namespace QuestLog

/-- The logs that come about by keeping record of quests, from a log without any record. -/
inductive Recorded : QuestLog → Prop where
  | blank (catalog : QuestCatalog) : Recorded (blank catalog)
  | startQuest {log next : QuestLog} {quest : String} (hlog : Recorded log)
      (h : log.startQuest quest = .ok next) : Recorded next
  | finishQuest {log next : QuestLog} {quest : String} {outcome : Outcome} (hlog : Recorded log)
      (h : log.finishQuest quest outcome = .ok next) : Recorded next
  | startStep {log next : QuestLog} {quest step : String} (hlog : Recorded log)
      (h : log.startStep quest step = .ok next) : Recorded next
  | finishStep {log next : QuestLog} {quest step : String} {outcome : Outcome}
      (hlog : Recorded log) (h : log.finishStep quest step outcome = .ok next) : Recorded next
  | revealHint {log next : QuestLog} {quest hint : String} (hlog : Recorded log)
      (h : log.revealHint quest hint = .ok next) : Recorded next
  | restore {log : QuestLog} (hlog : Recorded log) (states : StringMap QuestState) :
      Recorded (log.restore states).2

/-- Nothing is recorded of a quest that the catalog does not list. -/
def Listed (log : QuestLog) : Prop :=
  ∀ quest, log.states.contains quest = true → log.catalog.contains quest = true

variable {log next : QuestLog} {quest : String}

theorem Listed.update (hlog : log.Listed) {known : QuestDef}
    (hknown : log.definition quest = .ok known) (change : QuestState → QuestState) :
    (log.update quest change).Listed := by
  intro other hother
  rw [QuestLog.update, StringMap.contains, StringMap.get?_insert] at hother
  split at hother
  · next heq =>
    unfold definition at hknown
    split at hknown
    · next found hfound =>
      rw [heq]
      exact Option.isSome_of_eq_some hfound
    · cases hknown
  · exact hlog other hother

theorem Listed.changeQuest (hlog : log.Listed) {change : Progress → Progress}
    (h : log.changeQuest quest change = .ok next) : next.Listed := by
  obtain ⟨known, hknown, h⟩ := bind_eq_ok_iff.mp h
  cases h
  exact hlog.update hknown _

theorem Listed.changeStep (hlog : log.Listed) {step : String} {change : Progress → Progress}
    (h : log.changeStep quest step change = .ok next) : next.Listed := by
  obtain ⟨known, hknown, h⟩ := bind_eq_ok_iff.mp h
  split at h
  · cases h
    exact hlog.update hknown _
  · cases h

theorem Listed.revealHint (hlog : log.Listed) {hint : String}
    (h : log.revealHint quest hint = .ok next) : next.Listed := by
  obtain ⟨known, hknown, h⟩ := bind_eq_ok_iff.mp h
  split at h
  · cases h
    exact hlog.update hknown _
  · cases h

theorem listed_restore (log : QuestLog) (states : StringMap QuestState) :
    (log.restore states).2.Listed := by
  intro quest hquest
  obtain ⟨s, hs⟩ := Option.isSome_iff_exists.mp hquest
  rw [restore, StringMap.get?_filter] at hs
  exact (Option.filter_eq_some_iff.mp hs).2

theorem Recorded.listed (h : log.Recorded) : log.Listed := by
  induction h with
  | blank catalog => exact fun _ h => nomatch h
  | startQuest _ h ih => exact ih.changeQuest h
  | finishQuest _ h ih => exact ih.changeQuest h
  | startStep _ h ih => exact ih.changeStep h
  | finishStep _ h ih => exact ih.changeStep h
  | revealHint _ h ih => exact ih.revealHint h
  | restore _ states _ => exact listed_restore _ states

theorem get?_sparseStates (log : QuestLog) (quest : String) :
    log.sparseStates.get? quest =
      ((log.states.get? quest).filter fun s => !s.isUntouched).map QuestState.sparse := by
  rw [sparseStates, StringMap.get?_map, StringMap.get?_filter]

theorem alike_sparseStates (log : QuestLog) (quest : String) :
    ((log.sparseStates.get? quest).getD .untouched).Alike (log.state quest) := by
  rw [get?_sparseStates, state]
  cases log.states.get? quest with
  | none => exact QuestState.alike_untouched rfl
  | some s =>
    cases hs : s.isUntouched with
    | false => rw [Option.filter_some, hs]; exact s.alike_sparse
    | true => rw [Option.filter_some, hs]; exact QuestState.alike_untouched hs

/-- Where only such records are kept, they are all that is kept once more. -/
theorem sparseStates_eq_states {log next : QuestLog} (h : next.states = log.sparseStates) :
    next.sparseStates = next.states := by
  have hmarked {quest : String} {s : QuestState} (hs : next.states.get? quest = some s) :
      (!s.isUntouched) = true ∧ s.sparse = s := by
    rw [h, get?_sparseStates] at hs
    obtain ⟨full, hfull, rfl⟩ := Option.map_eq_some_iff.mp hs
    rw [QuestState.isUntouched_sparse, QuestState.sparse_sparse]
    exact ⟨(Option.filter_eq_some_iff.mp hfull).2, rfl⟩
  rw [sparseStates, StringMap.filter_eq_self fun quest s hs => (hmarked hs).1,
    StringMap.map_eq_self fun quest s hs => (hmarked hs).2]

end QuestLog

end StoryEngine
