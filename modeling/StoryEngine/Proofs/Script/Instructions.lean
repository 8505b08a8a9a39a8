import Mathlib.Algebra.GroupWithZero.Nat
import StoryEngine.Proofs.Script.Verbs
import StoryEngine.Proofs.Text.Pieces

/-! # Instructions

An instruction is the name of a verb, `=` and a value, and it is read as one action, or as an action
for each target that its value lists. Nothing is read from an instruction that lists no target, and
from every other text at least one action, so that the degraded actions of a library count what
cannot be used except where a list of targets is empty.
-/

namespace StoryEngine

set_option autoImplicit false

open Text (trim asciiLower sameName splitAll)
open Script (splitList splitLine keyValue? keyValue?_append listMark valueMark)

namespace Verb

/-- What a value is read as piece by piece: its targets, or the value itself. -/
def targets (verb : Verb) (value : String) : List String :=
  if verb.takesList then splitList listMark value else [value]

theorem name_plain (verb : Verb) : ∀ c ∈ verb.name.toList, c ≠ '=' ∧ Text.isBlank c = false := by
  have hall : verb.name.toList.all (fun c => c != '=' && !Text.isBlank c) = true := by
    cases verb <;> rfl
  simpa using hall

theorem name_ne_empty (verb : Verb) : verb.name ≠ "" := by cases verb <;> decide

theorem name_of_ofName? {name : String} {verb : Verb} (h : ofName? name = some verb) :
    verb.name = name := by
  simpa using List.find?_some h

end Verb

namespace Action

/-- The text is the verb's name in small or capital letters, `=` and the value, with blanks around
each of them. -/
def Instructs (raw : String) (verb : Verb) (value : String) : Prop :=
  ∃ key rest, trim raw = key ++ valueMark ++ rest ∧ asciiLower (trim key) = verb.name ∧
    value = trim rest

/-- The text is an instruction for a verb that lists its targets, and every target is blank. -/
def NamesNoTarget (raw : String) : Prop :=
  ∃ verb value, verb.takesList = true ∧ Instructs raw verb value ∧
    ∀ target ∈ splitAll listMark value, trim target = ""

section

variable {raw key value : String} {verb : Verb}

/-- What stands for a verb has no `=` in it, and no blank once the blanks around it are gone. -/
theorem plain_of_asciiLower (h : asciiLower (trim key) = verb.name) :
    '=' ∉ key.toList ∧ (trim key).toList.any Text.isBlank = false := by
  have hplain (c : Char) (hc : c ∈ (trim key).toList) :
      c.toLower ≠ '=' ∧ Text.isBlank c.toLower = false := by
    refine verb.name_plain c.toLower ?_
    rw [← h, Text.toList_asciiLower]
    exact List.mem_map_of_mem hc
  constructor
  · intro hmark
    exact (hplain '=' (Text.mem_trim hmark (by decide))).1 (by decide)
  · rw [List.any_eq_false]
    intro c hc hblank
    have hlower := (hplain c hc).2
    rw [Text.toLower_of_isBlank hblank, hblank] at hlower
    cases hlower

theorem ofVerbName_name (verb : Verb) (value : String) :
    ofVerbName verb.name value = (verb.targets value).map (ofVerb verb) := by
  rw [ofVerbName, Verb.ofName?_name, Verb.targets]
  dsimp only
  split <;> rfl

theorem not_sameName_forceEnd {text : String} (h : '=' ∈ text.toList) :
    sameName text Verb.forceEnd.name = false := by
  rw [← Bool.not_eq_true, Text.sameName_iff]
  intro hsame
  have hmark : '=' ∈ (asciiLower text).toList := by
    rw [Text.toList_asciiLower, List.mem_map]
    exact ⟨'=', h, by decide⟩
  rw [hsame] at hmark
  exact absurd hmark (by decide)

/-- What stands in front of the first `=` is looked up in small letters, unless it is blank or has a
blank in it. -/
theorem parseList_of_key {rest : String} (htext : trim raw = key ++ valueMark ++ rest)
    (hmark : '=' ∉ key.toList) (hne : trim key ≠ "")
    (hblank : (trim key).toList.any Text.isBlank = false) :
    parseList raw = ofVerbName (asciiLower (trim key)) (trim rest) := by
  have hin : '=' ∈ (trim raw).toList := by simp [htext, valueMark]
  have hsome : trim raw ≠ "" := by
    intro hempty
    rw [hempty] at hin
    cases hin
  have hread : verbAndValue (trim raw) = (asciiLower (trim key), trim rest) := by
    rw [verbAndValue, htext, keyValue?_append hmark hne]
    simp only [hblank, Bool.false_eq_true, if_false]
  simp only [parseList, if_neg hsome, not_sameName_forceEnd hin, Bool.false_eq_true, if_false,
    hread]

/-- An instruction is read target by target. -/
theorem parseList_of_instructs (h : Instructs raw verb value) :
    parseList raw = (verb.targets value).map (ofVerb verb) := by
  obtain ⟨key, rest, htext, hkey, rfl⟩ := h
  obtain ⟨hmark, hblank⟩ := plain_of_asciiLower hkey
  have hne : trim key ≠ "" := by
    intro hempty
    rw [hempty] at hkey
    exact verb.name_ne_empty hkey.symm
  rw [parseList_of_key htext hmark hne hblank, hkey, ofVerbName_name]

theorem ofVerbName_eq_nil_iff {name : String} :
    ofVerbName name value = [] ↔
      ∃ verb : Verb, verb.name = name ∧ verb.takesList = true ∧ splitList listMark value = [] := by
  unfold ofVerbName
  constructor
  · intro h
    split at h
    · next known hknown =>
      split at h
      · next hlist =>
        exact ⟨known, Verb.name_of_ofName? hknown, hlist, List.map_eq_nil_iff.mp h⟩
      · cases h
    · cases h
  · rintro ⟨verb, rfl, hlist, hnone⟩
    simp [Verb.ofName?_name, hlist, hnone]

/-- A text is bare, or what stands in front of its first `=` is looked up as a verb. -/
theorem verbAndValue_cases (raw : String) :
    verbAndValue raw = (Verb.text.name, raw) ∨
      ∃ key rest, raw = key ++ valueMark ++ rest ∧
        verbAndValue raw = (asciiLower (trim key), trim rest) := by
  unfold verbAndValue
  split
  · next hsplit =>
    obtain ⟨⟨key, rest, htext, -, rfl, rfl⟩, -⟩ := Script.keyValue?_eq_some_iff.mp hsplit
    split
    · exact .inl rfl
    · exact .inr ⟨key, rest, htext, rfl⟩
  · exact .inl rfl

/-- Nothing is read only from a blank text and from an instruction that lists no target. -/
theorem parseList_eq_nil_iff : parseList raw = [] ↔ trim raw = "" ∨ NamesNoTarget raw := by
  constructor
  · intro h
    refine or_iff_not_imp_left.mpr fun hne => ?_
    simp only [parseList, if_neg hne] at h
    split at h
    · cases h
    · rcases verbAndValue_cases (trim raw) with hbare | ⟨key, rest, htext, hread⟩
      · rw [hbare, ofVerbName_eq_nil_iff] at h
        obtain ⟨verb, hname, hlist, _⟩ := h
        obtain rfl : verb = .text := Verb.eq_of_name_eq hname
        cases hlist
      · rw [hread, ofVerbName_eq_nil_iff] at h
        obtain ⟨verb, hname, hlist, hnone⟩ := h
        exact ⟨verb, trim rest, hlist, ⟨key, rest, htext, hname.symm, rfl⟩,
          Script.splitList_eq_nil_iff.mp hnone⟩
  · rintro (hblank | ⟨verb, value, hlist, hraw, htargets⟩)
    · simp [parseList, hblank]
    · rw [parseList_of_instructs hraw, Verb.targets, if_pos hlist,
        Script.splitList_eq_nil_iff.mpr htargets, List.map_nil]

end

end Action

/-- What stands behind the conditions of a line. -/
def ScriptLine.actionHalf (raw : String) : String := (splitLine raw).2

theorem ScriptLine.actions_parse (raw : String) :
    (ScriptLine.parse raw).actions = Action.parseList (actionHalf raw) := by
  simp only [ScriptLine.parse, actionHalf]

theorem ScriptLine.trim_actionHalf (raw : String) : trim (actionHalf raw) = actionHalf raw := by
  rw [actionHalf, splitLine]
  cases Text.splitFirst Script.conditionMark raw with
  | none => exact Text.trim_trim raw
  | some parts => exact Text.trim_trim parts.2

theorem Script.degradedActions_eq (script : Script) :
    script.degradedActions =
      (script.lines.map fun line => line.actions.countP Action.isDegraded).sum :=
  List.countP_flatMap ..

theorem ScriptLibrary.degradedActions_eq (library : ScriptLibrary) :
    library.degradedActions = (library.values.map Script.degradedActions).sum :=
  List.countP_flatMap ..

namespace ScriptLine

/-- From the action half of a line that is not blank nothing is read exactly if it lists no target.
Such a line is the only one without a usable action that adds nothing to the number of degraded
actions, which is counted line by line over all scripts of a library. -/
theorem nothing_read_iff (raw : String) (hhalf : actionHalf raw ≠ "") :
    let actions := (parse raw).actions
    (actions = [] ↔ Action.NamesNoTarget (actionHalf raw)) ∧
      ((∀ action ∈ actions, action.isDegraded = true) →
        (actions.countP Action.isDegraded = 0 ↔ Action.NamesNoTarget (actionHalf raw))) ∧
      ∀ library : ScriptLibrary, library.degradedActions =
        (library.values.map fun script =>
          (script.lines.map fun line => line.actions.countP Action.isDegraded).sum).sum := by
  intro actions
  have hnone : actions = [] ↔ Action.NamesNoTarget (actionHalf raw) := by
    simp only [actions, actions_parse, Action.parseList_eq_nil_iff, trim_actionHalf]
    exact or_iff_right hhalf
  refine ⟨hnone, fun hunusable => ?_, fun library => ?_⟩
  · rw [← hnone, List.countP_eq_length.mpr hunusable, List.length_eq_zero_iff]
  · rw [ScriptLibrary.degradedActions_eq]
    exact congrArg List.sum (List.map_congr_left fun script _ => script.degradedActions_eq)

/-- A jump that cannot be read is counted. -/
theorem far_jump_is_counted :
    let raw := "met_miller ++ Jump = far"
    actionHalf raw ≠ "" ∧ ¬Action.NamesNoTarget (actionHalf raw) ∧
      (ScriptLibrary.degradedActions
        (.ofList [("gate", Script.ofSource [] none [raw, "set_flag=met_miller"])])) = 1 := by
  intro raw
  have hhalf : actionHalf raw ≠ "" := by decide +kernel
  have hread : (parse raw).actions ≠ [] := by decide +kernel
  exact ⟨hhalf, (nothing_read_iff raw hhalf).1.not.mp hread, by decide +kernel⟩

/-- A flag that is to be set and is not named leaves no trace. -/
theorem unnamed_flag_is_lost :
    actionHalf "set_flag=" ≠ "" ∧ (parse "set_flag=").actions = [] ∧
      (Script.ofSource [] none ["set_flag=", "join_party= && "]).degradedActions = 0 :=
  ⟨by decide +kernel, by decide +kernel, by decide +kernel⟩

end ScriptLine

end StoryEngine
