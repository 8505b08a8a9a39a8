import StoryEngine.Proofs.Script.Vocabulary
import StoryEngine.Proofs.Text.Joining

/-! # Lists in a script line

Conditions are listed with `&&` between them, and so are the targets of some verbs. A list of two
parts is read as the first part and then the second. The conditions of a line stand in front of its
first `++`, whatever stands behind it.
-/

namespace StoryEngine

set_option autoImplicit false

open Text (trim asciiLower occursIn splitFirst)
open Script (splitList conditionMark listMark valueMark)

namespace Script

theorem plain_listMark : ∀ c ∈ listMark.toList, Text.isBlank c = false :=
  Text.forall_mem_of_all_not rfl

theorem splitList_listMark_trim (s : String) :
    splitList listMark (trim s) = splitList listMark s :=
  splitList_trim (by decide) plain_listMark s

theorem splitList_listMark_join {a : String} (h : a.toList.getLast? ≠ some '&') (b : String) :
    splitList listMark (a ++ listMark ++ b) = splitList listMark a ++ splitList listMark b := by
  have hapart : Text.EndsApart listMark.toList a.toList := Text.endsApart_double h
  exact splitList_join (by decide) hapart b

end Script

namespace Condition

theorem parseList_join {a : String} (h : a.toList.getLast? ≠ some '&') (b : String) :
    parseList (a ++ listMark ++ b) = parseList a ++ parseList b := by
  rw [parseList, Script.splitList_listMark_join h, List.filterMap_append]
  rfl

theorem parseList_trim (s : String) : parseList (trim s) = parseList s := by
  rw [parseList, parseList, Script.splitList_listMark_trim]

theorem parseList_of_not_occursIn {token : String} (h : occursIn listMark token = false) :
    parseList token = (parse? token).toList := by
  have htrim : parse? (trim token) = parse? token := by simp only [parse?, Text.trim_trim]
  rw [parseList, Script.splitList_of_not_occursIn (by decide) h, ← htrim]
  by_cases hblank : trim token = ""
  · rw [hblank]
    rfl
  · cases hread : parse? (trim token) <;> simp [hblank, hread]

theorem allHold_append (first more : List Condition) (w : World) (master : Option Handle) :
    allHold (first ++ more) w master = (allHold first w master && allHold more w master) :=
  List.all_append

end Condition

namespace Action

theorem parseList_trim (raw : String) : parseList (trim raw) = parseList raw := by
  simp only [parseList, Text.trim_trim]

variable {verb : Verb} {word : String}

theorem isWord_of_asciiLower (h : asciiLower word = verb.name) : Text.IsWord word := by
  refine ⟨?_, fun c hc => ?_⟩
  · rintro rfl
    exact verb.name_ne_empty h.symm
  · have hmem : c.toLower ∈ verb.name.toList := by
      rw [← h, Text.toList_asciiLower]
      exact List.mem_map_of_mem hc
    obtain ⟨hmark, hplain⟩ := verb.name_plain _ hmem
    constructor
    · rintro rfl
      exact hmark rfl
    · rw [← Bool.not_eq_true]
      intro hblank
      rw [Text.toLower_of_isBlank hblank, hblank] at hplain
      cases hplain

/-- What is listed behind a verb that takes a list is read target by target. -/
theorem parseList_of_takesList (hlist : verb.takesList = true)
    (hword : asciiLower word = verb.name) (value : String) :
    parseList (word ++ valueMark ++ value) = (splitList listMark value).map (ofVerb verb) := by
  rw [parseList_of_isWord (isWord_of_asciiLower hword), hword, ofVerbName_name, Verb.targets,
    if_pos hlist, Script.splitList_listMark_trim]

theorem parseList_join (hlist : verb.takesList = true) (hword : asciiLower word = verb.name)
    {a : String} (h : a.toList.getLast? ≠ some '&') (b : String) :
    parseList (word ++ valueMark ++ (a ++ listMark ++ b)) =
      parseList (word ++ valueMark ++ a) ++ parseList (word ++ valueMark ++ b) := by
  simp only [parseList_of_takesList hlist hword, Script.splitList_listMark_join h, List.map_append]

end Action

namespace ScriptLine

/-- The conditions of a line reach to its first `++`. -/
theorem parse_join {c : String} (hmark : occursIn conditionMark c = false)
    (hend : c.toList.getLast? ≠ some '+') (x : String) :
    parse (c ++ conditionMark ++ x) =
      ⟨Condition.parseList c, Action.parseList x, c ++ conditionMark ++ x⟩ := by
  have hnone : Text.cutFirst conditionMark.toList c.toList = none := by
    rw [Text.cutFirst_eq_none_iff (by decide), ← Text.occursIn_iff_infix (by decide), hmark]
    exact Bool.false_ne_true
  have hcut : splitFirst conditionMark (c ++ conditionMark ++ x) = some (c, x) := by
    have hjoined : (c ++ conditionMark ++ x).toList =
        c.toList ++ (conditionMark.toList ++ x.toList) := by simp
    have hapart : Text.EndsApart conditionMark.toList c.toList := Text.endsApart_double hend
    rw [splitFirst, hjoined, Text.cutFirst_join (by decide) hapart, hnone]
    simp
  rw [parse, Script.splitLine, hcut]
  dsimp only
  rw [Option.map_some, Option.getD_some, Condition.parseList_trim, Action.parseList_trim]

end ScriptLine

namespace Script

/-- Conditions and targets with `&&` between them are read as those in front of it and then those
behind it, unless another `&` stands right in front, and together the conditions hold exactly where
both parts do. A part without `&&` is read as one condition or one target, or as none if it is
blank. A line is cut behind its conditions, whatever its action holds. -/
theorem joined_parts_read_apart :
    (∀ a b : String, a.toList.getLast? ≠ some '&' →
      Condition.parseList (a ++ listMark ++ b) = Condition.parseList a ++ Condition.parseList b ∧
      (∀ w master, Condition.allHold (Condition.parseList (a ++ listMark ++ b)) w master =
        (Condition.allHold (Condition.parseList a) w master &&
          Condition.allHold (Condition.parseList b) w master)) ∧
      ∀ (verb : Verb) (word : String), verb.takesList = true → asciiLower word = verb.name →
        Action.parseList (word ++ valueMark ++ (a ++ listMark ++ b)) =
          Action.parseList (word ++ valueMark ++ a) ++ Action.parseList (word ++ valueMark ++ b)) ∧
    (∀ part : String, occursIn listMark part = false →
      Condition.parseList part = (Condition.parse? part).toList ∧
      ∀ (verb : Verb) (word : String), verb.takesList = true → asciiLower word = verb.name →
        Action.parseList (word ++ valueMark ++ part) =
          if trim part = "" then [] else [Action.ofVerb verb (trim part)]) ∧
    ∀ c x : String, occursIn conditionMark c = false → c.toList.getLast? ≠ some '+' →
      (ScriptLine.parse (c ++ conditionMark ++ x)).conditions = Condition.parseList c ∧
      (ScriptLine.parse (c ++ conditionMark ++ x)).actions = Action.parseList x := by
  refine ⟨fun a b hend => ⟨?_, ?_, ?_⟩, fun part hmark => ⟨?_, ?_⟩, fun c x hmark hend => ?_⟩
  · exact Condition.parseList_join hend b
  · intro w master
    rw [Condition.parseList_join hend, Condition.allHold_append]
  · intro verb word hlist hword
    exact Action.parseList_join hlist hword hend b
  · exact Condition.parseList_of_not_occursIn hmark
  · intro verb word hlist hword
    rw [Action.parseList_of_takesList hlist hword, splitList_of_not_occursIn (by decide) hmark]
    by_cases hblank : trim part = "" <;> simp [hblank]
  · rw [ScriptLine.parse_join hmark hend]
    exact ⟨rfl, rfl⟩

/-- An `&` in front of `&&` is taken for the first half of it. -/
example : Condition.parseList ("a&" ++ listMark ++ "b") ≠
    Condition.parseList "a&" ++ Condition.parseList "b" := by decide +kernel

theorem two_flags_behind_two_conditions :
    let line := ScriptLine.parse ("met_miller&&!rain" ++ conditionMark ++ "Set_Flag=wet&&&++")
    occursIn conditionMark "met_miller&&!rain" = false ∧
      "met_miller&&!rain".toList.getLast? ≠ some '+' ∧ "met_miller".toList.getLast? ≠ some '&' ∧
      "wet".toList.getLast? ≠ some '&' ∧ asciiLower "Set_Flag" = Verb.setFlag.name ∧
      line.conditions = [⟨false, .flag "met_miller", "met_miller"⟩, ⟨true, .flag "rain", "!rain"⟩] ∧
      line.actions = [.setFlag "wet", .setFlag "&++"] := by
  intro line
  have hmark : occursIn conditionMark "met_miller&&!rain" = false := by decide +kernel
  have hplus : "met_miller&&!rain".toList.getLast? ≠ some '+' := by decide +kernel
  have hfirst : "met_miller".toList.getLast? ≠ some '&' := by decide +kernel
  have hwet : "wet".toList.getLast? ≠ some '&' := by decide +kernel
  have hword : asciiLower "Set_Flag" = Verb.setFlag.name := by decide +kernel
  obtain ⟨hjoined, hpart, hline⟩ := joined_parts_read_apart
  obtain ⟨hconditions, hactions⟩ := hline "met_miller&&!rain" "Set_Flag=wet&&&++" hmark hplus
  refine ⟨hmark, hplus, hfirst, hwet, hword, ?_, ?_⟩
  · have hlist : "met_miller&&!rain" = "met_miller" ++ listMark ++ "!rain" := by decide +kernel
    rw [hconditions, hlist, (hjoined "met_miller" "!rain" hfirst).1,
      (hpart "met_miller" (by decide +kernel)).1, (hpart "!rain" (by decide +kernel)).1]
    decide +kernel
  · have hlist : "Set_Flag=wet&&&++" = "Set_Flag" ++ valueMark ++ ("wet" ++ listMark ++ "&++") := by
      decide +kernel
    rw [hactions, hlist, (hjoined "wet" "&++" hwet).2.2 .setFlag "Set_Flag" rfl hword,
      (hpart "wet" (by decide +kernel)).2 .setFlag "Set_Flag" rfl hword,
      (hpart "&++" (by decide +kernel)).2 .setFlag "Set_Flag" rfl hword]
    decide +kernel

end Script

end StoryEngine
