import StoryEngine.Proofs.Quest.Record
import StoryEngine.Save.State
import StoryEngine.Schedule.Resolve

/-! # Saving a world and going on in another

A save leaves out what is not marked in the quest log, and putting it into a world leaves alone what
a save does not keep. What was saved reads the same afterwards, and saving once more gives the same
save.
-/

namespace StoryEngine

set_option autoImplicit false

namespace QuestLog

/-- A catalog takes back all that was recorded under it. -/
theorem restore_sparseStates {log other : QuestLog} (hlog : log.Listed)
    (hcatalog : other.catalog = log.catalog) :
    other.restore log.sparseStates = ([], { other with states := log.sparseStates }) := by
  have hknown {quest : String} {s : QuestState} (hs : log.sparseStates.get? quest = some s) :
      other.catalog.contains quest = true := by
    rw [get?_sparseStates] at hs
    obtain ⟨full, hfull, _⟩ := Option.map_eq_some_iff.mp hs
    rw [hcatalog]
    exact hlog quest (Option.isSome_of_eq_some (Option.filter_eq_some_iff.mp hfull).1)
  have hdropped : (log.sparseStates.filter fun quest _ => !other.catalog.contains quest) = ∅ :=
    StringMap.filter_eq_empty fun quest s hs => by rw [hknown hs]; rfl
  rw [restore, StringMap.filter_eq_self fun quest s hs => hknown hs, hdropped]
  rfl

end QuestLog

namespace SaveState

/-- Two worlds read the same in all that a save keeps. -/
structure SameSaved (a b : World) : Prop where
  flag : ∀ flag, a.hasFlag flag = b.hasFlag flag
  talkedTo : ∀ name, a.talkedTo.has name = b.talkedTo.has name
  quest : ∀ quest, a.quests.quest quest = b.quests.quest quest
  step : ∀ quest step, a.quests.step quest step = b.quests.step quest step
  hint : ∀ quest hint, a.quests.hintRevealed quest hint = b.quests.hintRevealed quest hint
  turns : a.turns = b.turns
  schedule : ∀ (s : Schedule) (stepMinutes : Nat),
    s.resolve a.turns stepMinutes = s.resolve b.turns stepMinutes

/-- Two worlds are the same in all that a save does not keep. -/
structure SameUnsaved (a b : World) : Prop where
  catalog : a.quests.catalog = b.quests.catalog
  gold : a.gold = b.gold
  inventory : a.inventory = b.inventory
  equipment : a.equipment = b.equipment
  party : a.party = b.party
  lastKeyword : a.lastKeyword = b.lastKeyword
  fluency : a.fluency = b.fluency
  actors : a.actors = b.actors
  player : a.player = b.player

/-- What was saved of one world comes into another one of the same catalog as it was, nothing else
of that one changes, and a second save is the same as the first. -/
theorem apply_capture {w v : World} (hw : w.quests.Recorded)
    (hcatalog : v.quests.catalog = w.quests.catalog) :
    ((capture w).apply v).1 = [] ∧ SameSaved ((capture w).apply v).2 w ∧
      SameUnsaved ((capture w).apply v).2 v ∧ capture ((capture w).apply v).2 = capture w := by
  have hrestore := QuestLog.restore_sparseStates hw.listed hcatalog
  have happly : (capture w).apply v = ([], { v with
      flags := w.flags
      talkedTo := w.talkedTo
      quests := { v.quests with states := w.quests.sparseStates }
      turns := w.turns }) := by
    simp only [apply, capture, hrestore]
  have halike := w.quests.alike_sparseStates
  rw [happly]
  refine ⟨rfl, ?_, ⟨rfl, rfl, rfl, rfl, rfl, rfl, rfl, rfl, rfl⟩, ?_⟩
  · exact ⟨fun _ => rfl, fun _ => rfl, fun quest => (halike quest).progress,
      fun quest => (halike quest).step, fun quest => (halike quest).hint, rfl, fun _ _ => rfl⟩
  · have hagain : { v.quests with states := w.quests.sparseStates }.sparseStates =
        w.quests.sparseStates := QuestLog.sparseStates_eq_states rfl
    simp only [capture, hagain]

/-- A journey that goes on in a world of its own: the quest that nobody touched and the step that
nobody took are not in the save, and are not missed. -/
theorem apply_capture_of_lost_ring :
    let catalog : QuestCatalog := .ofList
      [("idle", ⟨[], []⟩), ("lost_ring", ⟨["ask_smith", "search_well"], ["well_is_dry"]⟩)]
    let steps : StringMap Progress :=
      .ofList [("ask_smith", .untouched), ("search_well", ⟨true, true, false⟩)]
    let log : QuestLog :=
      ⟨catalog, .ofList [("idle", .untouched), ("lost_ring", ⟨⟨true, false, false⟩, steps, ∅⟩)]⟩
    let w : World := { World.blank catalog with
      flags := .ofKeys ["rain"]
      quests := log
      turns := ⟨[10, 15], 10, 25⟩ }
    let v : World := { World.blank catalog with flags := .ofKeys ["sun"], gold := 7 }
    let next := ((capture w).apply v).2
    w.quests.Recorded ∧ v.quests.catalog = w.quests.catalog ∧
      (capture w).quests = .ofList [("lost_ring",
        ⟨⟨true, false, false⟩, .ofList [("search_well", ⟨true, true, false⟩)], ∅⟩)] ∧
      next.hasFlag "sun" = w.hasFlag "sun" ∧
      next.quests.step "lost_ring" "ask_smith" = w.quests.step "lost_ring" "ask_smith" ∧
      next.gold = 7 ∧ capture next = capture w := by
  intro catalog steps log w v next
  let found : StringMap QuestState := .ofList
    [("idle", .untouched), ("lost_ring", ⟨.untouched, .ofList [("ask_smith", .untouched)], ∅⟩)]
  have hstep : (((QuestLog.blank catalog).restore found).2.finishStep
      "lost_ring" "search_well" .completed).toOption = some log := by decide +kernel
  have hw : w.quests.Recorded :=
    .finishStep (.restore (.blank catalog) found) (toOption_eq_some_iff.mp hstep)
  obtain ⟨_, hsaved, hunsaved, hagain⟩ := apply_capture hw (v := v) rfl
  exact ⟨hw, rfl, by decide +kernel, hsaved.flag _, hsaved.step _ _, hunsaved.gold, hagain⟩

end SaveState

end StoryEngine
