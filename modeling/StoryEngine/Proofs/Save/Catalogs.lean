import StoryEngine.Proofs.Quest.Outcomes
import StoryEngine.Save.State

/-! # Saves from another catalog

A save may have been written under a catalog that has changed since. What it holds of quests that
are gone is dropped when it is applied; steps and hints that are gone from a quest are not. They
come into the journal, and no request gets rid of them. So the journal keeps to its catalog exactly
if the save does in what it holds of the quests that are left.
-/

namespace StoryEngine

set_option autoImplicit false

namespace QuestState

/-- Only steps and hints that the quest has are recorded. -/
structure KeepsTo (known : QuestDef) (s : QuestState) : Prop where
  step : ∀ id, s.steps.contains id = true → id ∈ known.steps
  hint : ∀ id, s.hints.has id = true → id ∈ known.hints

variable {known : QuestDef} {s : QuestState}

theorem keepsTo_untouched (known : QuestDef) : KeepsTo known .untouched := ⟨nofun, nofun⟩

theorem keepsTo_insertStep_iff {step : String} (hstep : step ∈ known.steps)
    (progress : Progress) (p : Progress) :
    KeepsTo known ⟨progress, s.steps.insert step p, s.hints⟩ ↔ s.KeepsTo known := by
  constructor
  · refine fun h => ⟨fun id hid => h.step id ?_, h.hint⟩
    rw [StringMap.contains_insert, hid, Bool.or_true]
  · refine fun h => ⟨fun id hid => ?_, h.hint⟩
    rw [StringMap.contains_insert, Bool.or_eq_true, beq_iff_eq] at hid
    rcases hid with rfl | hid
    · exact hstep
    · exact h.step id hid

theorem keepsTo_addHint_iff {hint : String} (hhint : hint ∈ known.hints) :
    KeepsTo known { s with hints := s.hints.add hint } ↔ s.KeepsTo known := by
  constructor
  · refine fun h => ⟨h.step, fun id hid => h.hint id ?_⟩
    rw [StringSet.has_add, hid, Bool.or_true]
  · refine fun h => ⟨h.step, fun id hid => ?_⟩
    rw [StringSet.has_add, Bool.or_eq_true, beq_iff_eq] at hid
    rcases hid with rfl | hid
    · exact hhint
    · exact h.hint id hid

/-- What a request may mark is listed, and what else is recorded stays. -/
theorem keepsTo_mark_iff {request : QuestLog.Request} (h : request.isListed known = true) :
    (request.mark s).KeepsTo known ↔ s.KeepsTo known := by
  cases request with
  | startQuest | finishQuest => exact ⟨fun h => ⟨h.step, h.hint⟩, fun h => ⟨h.step, h.hint⟩⟩
  | startStep | finishStep => exact keepsTo_insertStep_iff (List.contains_iff_mem.mp h) _ _
  | revealHint => exact keepsTo_addHint_iff (List.contains_iff_mem.mp h)

theorem contains_steps_sparse (s : QuestState) (id : String) :
    s.sparse.steps.contains id = true ↔ s.step id ≠ .untouched := by
  rw [StringMap.contains, get?_steps_sparse, step]
  cases s.steps.get? id with
  | none => exact iff_of_false Bool.false_ne_true (absurd rfl)
  | some p => simp [Option.filter, ← Progress.isUntouched_iff, Option.isSome_ite]

end QuestState

namespace QuestLog

/-- Every recorded quest is in the catalog, and what is recorded of it is something that it has. -/
def KeepsToCatalog (log : QuestLog) : Prop :=
  ∀ quest s, log.states.get? quest = some s →
    ∃ known, log.catalog.get? quest = some known ∧ s.KeepsTo known

variable {log : QuestLog} {quest : String} {known : QuestDef}

theorem keepsToCatalog_blank (catalog : QuestCatalog) : (blank catalog).KeepsToCatalog :=
  fun _ _ h => nomatch h

theorem KeepsToCatalog.keepsTo_state (h : log.KeepsToCatalog)
    (hknown : log.catalog.get? quest = some known) : (log.state quest).KeepsTo known := by
  unfold state
  cases hs : log.states.get? quest with
  | none => exact QuestState.keepsTo_untouched known
  | some s =>
    obtain ⟨_, hsame, hkeeps⟩ := h quest s hs
    cases hknown.symm.trans hsame
    exact hkeeps

theorem get?_states_update (log : QuestLog) (quest other : String)
    (change : QuestState → QuestState) :
    (log.update quest change).states.get? other =
      if other = quest then some (change (log.state quest)) else log.states.get? other :=
  StringMap.get?_insert _ _ _ _

theorem keepsToCatalog_update_iff {request : Request} (hlisted : request.Listed log.catalog) :
    (log.update request.quest request.mark).KeepsToCatalog ↔ log.KeepsToCatalog := by
  obtain ⟨known, hknown, hpart⟩ := hlisted
  constructor
  · intro h quest s hs
    have hafter := h quest
    rw [get?_states_update] at hafter
    split at hafter
    · next heq =>
      subst heq
      obtain ⟨_, hsame, hkeeps⟩ := hafter _ rfl
      cases hknown.symm.trans hsame
      rw [state, hs] at hkeeps
      exact ⟨known, hknown, (QuestState.keepsTo_mark_iff hpart).mp hkeeps⟩
    · exact hafter s hs
  · intro h quest s hs
    rw [get?_states_update] at hs
    split at hs
    · next heq =>
      subst heq
      cases hs
      exact ⟨known, hknown, (QuestState.keepsTo_mark_iff hpart).mpr (h.keepsTo_state hknown)⟩
    · exact h quest s hs

theorem keepsToCatalog_serve_iff (log : QuestLog) (request : Request) :
    (log.serve request).2.KeepsToCatalog ↔ log.KeepsToCatalog := by
  obtain ⟨hlisted, h⟩ | ⟨_, h⟩ := log.serve_cases request
  · rw [h, keepsToCatalog_update_iff hlisted]
  · rw [h]

/-- Requests bring nothing into a journal that the catalog does not list, and take nothing out. -/
theorem keepsToCatalog_serveAll_iff (log : QuestLog) (requests : List Request) :
    (log.serveAll requests).KeepsToCatalog ↔ log.KeepsToCatalog := by
  induction requests generalizing log with
  | nil => rfl
  | cons request rest ih => exact (ih _).trans (log.keepsToCatalog_serve_iff request)

theorem get?_states_restore (log : QuestLog) (states : StringMap QuestState) (quest : String) :
    (log.restore states).2.states.get? quest =
      (states.get? quest).filter fun _ => log.catalog.contains quest :=
  StringMap.get?_filter _ _ _

theorem keepsToCatalog_restore_iff (log : QuestLog) (states : StringMap QuestState) :
    (log.restore states).2.KeepsToCatalog ↔ ∀ quest s known,
      states.get? quest = some s → log.catalog.get? quest = some known → s.KeepsTo known := by
  constructor
  · intro h quest s known hs hknown
    have hkept : (log.restore states).2.states.get? quest = some s := by
      rw [get?_states_restore, hs, StringMap.contains, hknown]
      rfl
    obtain ⟨_, hsame, hkeeps⟩ := h quest s hkept
    cases hknown.symm.trans hsame
    exact hkeeps
  · intro h quest s hs
    rw [get?_states_restore, Option.filter_eq_some_iff] at hs
    obtain ⟨known, hknown⟩ := Option.isSome_iff_exists.mp hs.2
    exact ⟨known, hknown, h quest s known hs.1 hknown⟩

/-- What is kept of a record in a save is the marked steps and the revealed hints. -/
theorem keepsTo_sparseStates_iff (log : QuestLog) (quest : String) (known : QuestDef) :
    (∀ s, log.sparseStates.get? quest = some s → s.KeepsTo known) ↔
      (∀ step, log.step quest step ≠ .untouched → step ∈ known.steps) ∧
        ∀ hint, log.hintRevealed quest hint = true → hint ∈ known.hints := by
  have halike := log.alike_sparseStates quest
  cases hs : log.sparseStates.get? quest with
  | none =>
    -- A record that a save leaves out is like one in which nothing is marked.
    rw [hs] at halike
    refine iff_of_true nofun ⟨fun step hstep => ?_, fun hint hhint => ?_⟩
    · exact absurd (halike.step step).symm hstep
    · exact nomatch (halike.hint hint).trans hhint
  | some s =>
    rw [get?_sparseStates] at hs
    obtain ⟨full, hfull, rfl⟩ := Option.map_eq_some_iff.mp hs
    have hstate : log.state quest = full := by
      rw [state, (Option.filter_eq_some_iff.mp hfull).1]
      rfl
    have hstep (step : String) :
        full.sparse.steps.contains step = true ↔ log.step quest step ≠ .untouched := by
      rw [QuestState.contains_steps_sparse, QuestLog.step, hstate]
    have hhint (hint : String) :
        full.sparse.hints.has hint = true ↔ log.hintRevealed quest hint = true := by
      rw [hintRevealed, hstate]
      rfl
    constructor
    · intro h
      have hkeeps := h _ rfl
      exact ⟨fun step hmarked => hkeeps.step step ((hstep step).mpr hmarked),
        fun hint hrevealed => hkeeps.hint hint ((hhint hint).mpr hrevealed)⟩
    · rintro h _ ⟨⟩
      exact ⟨fun step hkept => h.1 step ((hstep step).mp hkept),
        fun hint hkept => h.2 hint ((hhint hint).mp hkept)⟩

end QuestLog

namespace SaveState

/-- A save that is applied brings in records of quests of the catalog only. The journal then keeps
to the catalog exactly if the save has of each of these quests only steps and hints that the quest
has, and whatever is asked of the journal later makes no difference to that; a journal that was not
restored always keeps to it. -/
theorem applied_keeps_to_catalog_iff (save : SaveState) (w : World)
    (requests : List QuestLog.Request) :
    let catalog := w.quests.catalog
    let applied := (save.apply w).2.quests
    applied.catalog = catalog ∧ applied.Listed ∧
      (applied.KeepsToCatalog ↔ ∀ quest s known,
        save.quests.get? quest = some s → catalog.get? quest = some known → s.KeepsTo known) ∧
      ((applied.serveAll requests).KeepsToCatalog ↔ applied.KeepsToCatalog) ∧
      ((QuestLog.blank catalog).serveAll requests).KeepsToCatalog := by
  intro catalog applied
  refine ⟨rfl, QuestLog.listed_restore w.quests save.quests, ?_, ?_, ?_⟩
  · exact w.quests.keepsToCatalog_restore_iff save.quests
  · exact applied.keepsToCatalog_serveAll_iff requests
  · exact (QuestLog.keepsToCatalog_serveAll_iff _ requests).mpr
      (QuestLog.keepsToCatalog_blank catalog)

/-- With a save of another world, that is, exactly if no step was marked there, and no hint
revealed, which a quest of the catalog does not have. -/
theorem captured_keeps_to_catalog_iff (source w : World) :
    ((capture source).apply w).2.quests.KeepsToCatalog ↔
      ∀ quest known, w.quests.catalog.get? quest = some known →
        (∀ step, source.quests.step quest step ≠ .untouched → step ∈ known.steps) ∧
          ∀ hint, source.quests.hintRevealed quest hint = true → hint ∈ known.hints := by
  refine (w.quests.keepsToCatalog_restore_iff source.quests.sparseStates).trans ?_
  constructor
  · intro h quest known hknown
    exact (source.quests.keepsTo_sparseStates_iff quest known).mp fun s hs => h quest s known hs hknown
  · intro h quest s known hs hknown
    exact (source.quests.keepsTo_sparseStates_iff quest known).mpr (h quest known hknown) s hs

/-- Rowing is no longer a step of the ferry quest, but somebody has started on it. -/
theorem rowing_outlives_its_definition :
    let older : QuestCatalog := .ofList [("ferry", ⟨["pay", "row"], []⟩)]
    let newer : QuestCatalog := .ofList [("ferry", ⟨["pay"], []⟩)]
    let source : World := { World.blank older with
      quests := (QuestLog.blank older).serveAll [.startStep "ferry" "row"] }
    let applied := (capture source).apply (World.blank newer)
    applied.1 = [] ∧ applied.2.quests.step "ferry" "row" = ⟨true, false, false⟩ ∧
      (Predicate.step "ferry" "row" .started).holds applied.2 none = true ∧
      ¬applied.2.quests.KeepsToCatalog := by
  intro older newer source applied
  refine ⟨by decide +kernel, by decide +kernel, by decide +kernel, fun h => ?_⟩
  have hstep : source.quests.step "ferry" "row" ≠ .untouched := by decide +kernel
  have hlisted := ((captured_keeps_to_catalog_iff source (World.blank newer)).mp h
    "ferry" ⟨["pay"], []⟩ (by decide +kernel)).1 "row" hstep
  exact absurd hlisted (by decide)

end SaveState

end StoryEngine
