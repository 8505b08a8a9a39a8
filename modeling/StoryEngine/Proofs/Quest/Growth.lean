import StoryEngine.Proofs.Quest.Journal
import StoryEngine.Proofs.Quest.Record

/-! # Quest progress grows

Whatever a journal records is listed in its catalog, what has ended was started, and a step stands
in the record of a quest that was started. A request adds marks and takes none away. A journal that
goes on from what was saved of another one under the same catalog is as good as any.
-/

namespace StoryEngine

set_option autoImplicit false

/-- Every mark of the one is a mark of the other. -/
structure Progress.Within (p q : Progress) : Prop where
  started : p.started = true → q.started = true
  completed : p.completed = true → q.completed = true
  failed : p.failed = true → q.failed = true

namespace Progress

theorem Within.refl (p : Progress) : p.Within p := ⟨id, id, id⟩

theorem within_start (p : Progress) : p.Within p.start := ⟨fun _ => rfl, id, id⟩

theorem within_finish (p : Progress) : ∀ outcome, p.Within (p.finish outcome)
  | .completed => ⟨fun _ => rfl, fun _ => rfl, id⟩
  | .failed => ⟨fun _ => rfl, id, fun _ => rfl⟩

theorem started_finish (p : Progress) (outcome : Outcome) : (p.finish outcome).started = true := by
  cases outcome <;> rfl

end Progress

namespace QuestState

structure Within (a b : QuestState) : Prop where
  progress : a.progress.Within b.progress
  step : ∀ id, (a.step id).Within (b.step id)
  hint : ∀ id, a.hints.has id = true → b.hints.has id = true

/-- A record that a quest of the catalog can have. -/
structure Fits (known : QuestDef) (s : QuestState) : Prop where
  step_listed : ∀ id p, s.steps.get? id = some p → id ∈ known.steps
  hint_listed : ∀ id, s.hints.has id = true → id ∈ known.hints
  finished_started : s.progress.finished = true → s.progress.started = true
  step_finished_started : ∀ id p, s.steps.get? id = some p → p.finished = true → p.started = true
  step_quest_started : ∀ id p, s.steps.get? id = some p → s.progress.started = true

variable {known : QuestDef} {s : QuestState}

theorem Within.refl (s : QuestState) : s.Within s :=
  ⟨Progress.Within.refl _, fun _ => Progress.Within.refl _, fun _ => id⟩

theorem fits_untouched (known : QuestDef) : Fits known .untouched where
  step_listed _ _ h := nomatch h
  hint_listed _ h := nomatch h
  finished_started h := nomatch h
  step_finished_started _ _ h := nomatch h
  step_quest_started _ _ h := nomatch h

theorem within_markStep (s : QuestState) {step : String} {p : Progress}
    (h : (s.step step).Within p) :
    s.Within { s with progress := s.progress.start, steps := s.steps.insert step p } where
  progress := s.progress.within_start
  step id := by
    rw [QuestLog.step_insert]
    split
    · next heq => exact heq ▸ h
    · exact Progress.Within.refl _
  hint _ h := h

theorem within_mark (s : QuestState) : ∀ request : QuestLog.Request, s.Within (request.mark s)
  | .startQuest _ => ⟨s.progress.within_start, fun _ => Progress.Within.refl _, fun _ => id⟩
  | .finishQuest _ outcome =>
    ⟨s.progress.within_finish outcome, fun _ => Progress.Within.refl _, fun _ => id⟩
  | .startStep _ step => s.within_markStep (s.step step).within_start
  | .finishStep _ step outcome => s.within_markStep ((s.step step).within_finish outcome)
  | .revealHint _ hint => by
    refine ⟨Progress.Within.refl _, fun _ => Progress.Within.refl _, fun id h => ?_⟩
    simp only [QuestLog.Request.mark, StringSet.has_add, h, Bool.or_true]

theorem Fits.markQuest {p : Progress} (h : s.Fits known) (hp : p.started = true) :
    Fits known { s with progress := p } where
  step_listed := h.step_listed
  hint_listed := h.hint_listed
  finished_started _ := hp
  step_finished_started := h.step_finished_started
  step_quest_started _ _ _ := hp

theorem Fits.markStep {step : String} {p : Progress} (h : s.Fits known)
    (hstep : known.steps.contains step = true) (hp : p.started = true) :
    Fits known { s with progress := s.progress.start, steps := s.steps.insert step p } where
  step_listed id q hq := by
    rw [StringMap.get?_insert] at hq
    split at hq
    · next heq => exact heq ▸ List.contains_iff_mem.mp hstep
    · exact h.step_listed id q hq
  hint_listed := h.hint_listed
  finished_started _ := rfl
  step_finished_started id q hq hfinished := by
    rw [StringMap.get?_insert] at hq
    split at hq
    · cases hq
      exact hp
    · exact h.step_finished_started id q hq hfinished
  step_quest_started _ _ _ := rfl

theorem Fits.addHint {hint : String} (h : s.Fits known)
    (hhint : known.hints.contains hint = true) :
    Fits known { s with hints := s.hints.add hint } where
  step_listed := h.step_listed
  hint_listed id hid := by
    rw [StringSet.has_add, Bool.or_eq_true, beq_iff_eq] at hid
    rcases hid with rfl | hid
    · exact List.contains_iff_mem.mp hhint
    · exact h.hint_listed id hid
  finished_started := h.finished_started
  step_finished_started := h.step_finished_started
  step_quest_started := h.step_quest_started

theorem Fits.mark {request : QuestLog.Request} (h : s.Fits known)
    (hlisted : request.isListed known = true) : Fits known (request.mark s) := by
  cases request with
  | startQuest => exact h.markQuest rfl
  | finishQuest quest outcome => exact h.markQuest (s.progress.started_finish outcome)
  | startStep => exact h.markStep hlisted rfl
  | finishStep quest step outcome =>
    exact h.markStep hlisted ((s.step step).started_finish outcome)
  | revealHint => exact h.addHint hlisted

theorem Fits.sparse (h : s.Fits known) : Fits known s.sparse := by
  have hkept {id : String} {p : Progress} (hp : s.sparse.steps.get? id = some p) :
      s.steps.get? id = some p := by
    rw [get?_steps_sparse] at hp
    exact (Option.filter_eq_some_iff.mp hp).1
  exact {
    step_listed := fun id p hp => h.step_listed id p (hkept hp)
    hint_listed := h.hint_listed
    finished_started := h.finished_started
    step_finished_started := fun id p hp => h.step_finished_started id p (hkept hp)
    step_quest_started := fun id p hp => h.step_quest_started id p (hkept hp) }

end QuestState

namespace QuestLog

/-- Every record is one that its quest can have, and its quest is listed. -/
def WellFormed (log : QuestLog) : Prop :=
  ∀ quest s, log.states.get? quest = some s →
    ∃ known, log.catalog.get? quest = some known ∧ s.Fits known

def Within (a b : QuestLog) : Prop := ∀ quest, (a.state quest).Within (b.state quest)

def Request.Listed (catalog : QuestCatalog) (request : Request) : Prop :=
  ∃ known, catalog.get? request.quest = some known ∧ request.isListed known = true

variable {log saved : QuestLog} {quest : String} {known : QuestDef}

theorem definition_eq_ok_iff :
    log.definition quest = .ok known ↔ log.catalog.get? quest = some known := by
  unfold definition
  split
  · next h => rw [h, Except.ok.injEq, Option.some.injEq]
  · next h => exact iff_of_false nofun (h ▸ nofun)

theorem state_update (log : QuestLog) (quest other : String) (change : QuestState → QuestState) :
    (log.update quest change).state other =
      if other = quest then change (log.state quest) else log.state other := by
  rw [state, update, StringMap.get?_insert]
  split <;> rfl

theorem WellFormed.fits_state (h : log.WellFormed) (hknown : log.catalog.get? quest = some known) :
    (log.state quest).Fits known := by
  unfold state
  cases hs : log.states.get? quest with
  | none => exact QuestState.fits_untouched known
  | some s =>
    obtain ⟨_, hsame, hfits⟩ := h quest s hs
    cases hknown.symm.trans hsame
    exact hfits

theorem wellFormed_blank (catalog : QuestCatalog) : (blank catalog).WellFormed :=
  fun _ _ h => nomatch h

theorem WellFormed.update {request : Request} (h : log.WellFormed)
    (hlisted : request.Listed log.catalog) :
    (log.update request.quest request.mark).WellFormed := by
  intro quest s hs
  rw [QuestLog.update, StringMap.get?_insert] at hs
  split at hs
  · next heq =>
    cases hs
    obtain ⟨known, hknown, hpart⟩ := hlisted
    exact ⟨known, heq ▸ hknown, (h.fits_state hknown).mark hpart⟩
  · exact h quest s hs

theorem within_update (log : QuestLog) (request : Request) :
    log.Within (log.update request.quest request.mark) := by
  intro quest
  rw [state_update]
  split
  · next heq => exact heq ▸ QuestState.within_mark _ request
  · exact QuestState.Within.refl _

theorem WellFormed.restore (h : saved.WellFormed) (hcatalog : log.catalog = saved.catalog) :
    (log.restore saved.sparseStates).2.WellFormed := by
  intro quest s hs
  rw [QuestLog.restore, StringMap.get?_filter] at hs
  have hsaved := (Option.filter_eq_some_iff.mp hs).1
  rw [get?_sparseStates] at hsaved
  obtain ⟨full, hfull, rfl⟩ := Option.map_eq_some_iff.mp hsaved
  obtain ⟨known, hknown, hfits⟩ := h quest full (Option.filter_eq_some_iff.mp hfull).1
  exact ⟨known, hcatalog ▸ hknown, hfits.sparse⟩

theorem serve_listed {request : Request} (h : request.Listed log.catalog) :
    log.perform request = .ok (log.update request.quest request.mark) ∧
      log.serve request = (.ok (), log.update request.quest request.mark) := by
  obtain ⟨known, hknown, hpart⟩ := h
  have hperform : log.perform request = .ok (log.update request.quest request.mark) := by
    rw [perform_eq, definition_eq_ok_iff.mpr hknown]
    exact if_pos hpart
  exact ⟨hperform, by rw [serve_eq_perform, hperform]⟩

theorem serve_not_listed {request : Request} (h : ¬ request.Listed log.catalog) :
    ∃ e, log.perform request = .error e ∧ log.serve request = (.error e, log) := by
  have hfails : ∃ e, log.perform request = .error e := by
    rw [perform_eq]
    cases hdefinition : log.definition request.quest with
    | error e => exact ⟨e, rfl⟩
    | ok known =>
      have hpart : ¬ request.isListed known = true :=
        fun hpart => h ⟨known, definition_eq_ok_iff.mp hdefinition, hpart⟩
      exact ⟨request.unlisted, if_neg hpart⟩
  obtain ⟨e, he⟩ := hfails
  exact ⟨e, he, by rw [serve_eq_perform, he]⟩

/-- A request adds its mark if the catalog lists what it names, and otherwise does nothing. -/
theorem serve_cases (log : QuestLog) (request : Request) :
    (request.Listed log.catalog ∧
      (log.serve request).2 = log.update request.quest request.mark) ∨
    (¬request.Listed log.catalog ∧ (log.serve request).2 = log) := by
  by_cases hlisted : request.Listed log.catalog
  · exact .inl ⟨hlisted, congrArg Prod.snd (serve_listed hlisted).2⟩
  · obtain ⟨e, _, hserve⟩ := serve_not_listed hlisted
    exact .inr ⟨hlisted, congrArg Prod.snd hserve⟩

theorem catalog_serve (log : QuestLog) (request : Request) :
    (log.serve request).2.catalog = log.catalog := by
  obtain ⟨_, h⟩ | ⟨_, h⟩ := log.serve_cases request <;> rw [h]
  rfl

/-- What has happened to a journal: requests, and that it was replaced by what was saved of a
journal with a history of its own. -/
inductive History where
  | blank
  | asked (before : History) (request : Request)
  | restore (before saved : History)

/-- The journal after all that, from an empty one. -/
def History.journal (catalog : QuestCatalog) : History → QuestLog
  | blank => .blank catalog
  | asked before request => ((before.journal catalog).serve request).2
  | restore before saved =>
    ((before.journal catalog).restore (saved.journal catalog).sparseStates).2

theorem History.catalog_journal (catalog : QuestCatalog) (history : History) :
    (history.journal catalog).catalog = catalog := by
  induction history with
  | blank => rfl
  | restore before saved ih _ => exact ih
  | asked before request ih => exact (catalog_serve _ request).trans ih

theorem History.wellFormed_journal (catalog : QuestCatalog) (history : History) :
    (history.journal catalog).WellFormed := by
  induction history with
  | blank => exact wellFormed_blank catalog
  | restore before saved _ ih =>
    -- Nothing of the journal before stays, so only the saved one has to be in order.
    exact ih.restore ((before.catalog_journal catalog).trans (saved.catalog_journal catalog).symm)
  | asked before request ih =>
    rw [journal]
    obtain ⟨hlisted, hserve⟩ | ⟨_, hserve⟩ := serve_cases (before.journal catalog) request
    · rw [hserve]
      exact ih.update hlisted
    · rw [hserve]
      exact ih

/-- Whatever has happened to a journal, its records are in order, a request for what the catalog
lists adds its mark and takes none away, and any other request fails without leaving a trace. -/
theorem progress_wellFormed_and_grows (catalog : QuestCatalog) (history : History) :
    let log := history.journal catalog
    log.catalog = catalog ∧ log.WellFormed ∧ ∀ request : Request,
      (request.Listed catalog ∧ ∃ next, next = log.update request.quest request.mark ∧
        log.perform request = .ok next ∧ log.serve request = (.ok (), next) ∧ log.Within next) ∨
      (¬ request.Listed catalog ∧ ∃ e,
        log.perform request = .error e ∧ log.serve request = (.error e, log)) := by
  intro log
  have hcatalog : log.catalog = catalog := history.catalog_journal catalog
  refine ⟨hcatalog, history.wellFormed_journal catalog, fun request => ?_⟩
  by_cases hlisted : request.Listed catalog
  · have hknown : request.Listed log.catalog := hcatalog.symm ▸ hlisted
    obtain ⟨hperform, hserve⟩ := serve_listed hknown
    exact .inl ⟨hlisted, _, rfl, hperform, hserve, log.within_update request⟩
  · have hunknown : ¬ request.Listed log.catalog := hcatalog.symm ▸ hlisted
    exact .inr ⟨hlisted, serve_not_listed hunknown⟩

end QuestLog

end StoryEngine
