import StoryEngine.Proofs.Script.Instructions

/-! # The vocabulary of verbs

A word in front of `=` is looked up in small letters. What is read of a word of the vocabulary says
which word it was, whether or not its value can be used, and only `remove_flag` goes by the name of
`clear_flag` once it is read. Any other word is kept as an unknown verb.
-/

namespace StoryEngine

set_option autoImplicit false

open Text (trim asciiLower)
open Script (valueMark)

/-- A text that can stand for a verb. -/
structure Text.IsWord (word : String) : Prop where
  ne_empty : word ≠ ""
  plain : ∀ c ∈ word.toList, c ≠ '=' ∧ isBlank c = false

namespace Verb

/-- The verbs that scripts may use, as they are written. -/
def vocabulary : List String :=
  ["set_flag", "clear_flag", "reset_flags", "give_gold", "take_gold", "give_item", "take_item",
    "jump", "unjump", "start_event", "end_event", "force_end", "text", "text_nowait", "question",
    "walk", "warp", "spawn", "destroy", "stand_in", "stand_in_end", "teleport", "force_combat",
    "set_arg", "wait", "start_quest", "complete_quest", "fail_quest", "start_step",
    "complete_step", "fail_step", "reveal_hint", "join_party", "leave_party", "face"]

theorem mem_vocabulary_iff {name : String} :
    name ∈ "remove_flag" :: vocabulary ↔ ∃ verb : Verb, verb.name = name := by
  constructor
  · intro h
    have hfound : ∀ name ∈ "remove_flag" :: vocabulary, (ofName? name).isSome = true := by
      decide +kernel
    obtain ⟨verb, hverb⟩ := Option.isSome_iff_exists.mp (hfound name h)
    exact ⟨verb, name_of_ofName? hverb⟩
  · rintro ⟨verb, rfl⟩
    cases verb <;> decide

theorem isWord_name (verb : Verb) : Text.IsWord verb.name := ⟨verb.name_ne_empty, verb.name_plain⟩

theorem asciiLower_name (verb : Verb) : asciiLower verb.name = verb.name := by cases verb <;> rfl

theorem name_meant (verb : Verb) :
    verb.meant.name = if verb.name = "remove_flag" then "clear_flag" else verb.name := by
  cases verb <;> rfl

end Verb

namespace Action

variable {word : String}

theorem parseList_of_isWord (hword : Text.IsWord word) (value : String) :
    parseList (word ++ valueMark ++ value) = ofVerbName (asciiLower word) (trim value) := by
  have hfront : ∀ c ∈ (word ++ valueMark).toList, Text.isBlank c = false := by
    intro c hc
    rw [String.toList_append, List.mem_append] at hc
    rcases hc with hc | hc
    · exact (hword.plain c hc).2
    · rw [List.mem_singleton.mp hc]
      rfl
  obtain ⟨rest, htext, hrest⟩ := Text.trim_append (by simp [hword.ne_empty]) hfront value
  have htrim : trim word = word := Text.trim_of_plain fun c hc => (hword.plain c hc).2
  have hmark : '=' ∉ word.toList := fun hmem => (hword.plain '=' hmem).1 rfl
  have hblank : (trim word).toList.any Text.isBlank = false := by
    rw [htrim, List.any_eq_false]
    intro c hc
    simp [(hword.plain c hc).2]
  rw [parseList_of_key htext hmark (htrim.symm ▸ hword.ne_empty) hblank, htrim, hrest]

theorem ofVerbName_of_unknown {name : String} (h : ¬∃ verb : Verb, verb.name = name)
    (value : String) : ofVerbName name value = [unknown name value] := by
  have hnone : Verb.ofName? name = none := by
    rw [Option.eq_none_iff_forall_ne_some]
    intro verb hverb
    exact h ⟨verb, Verb.name_of_ofName? hverb⟩
  rw [ofVerbName, hnone]

def isUnknown : Action → Bool
  | unknown _ _ => true
  | _ => false

theorem isUnknown_ofVerb (verb : Verb) (value : String) :
    (ofVerb verb value).isUnknown = false := by
  rcases ofVerb_cases verb value with ⟨-, hread⟩ | ⟨fault, hfault⟩
  · cases haction : ofVerb verb value with
    | unknown =>
      rw [haction] at hread
      cases hread
    | _ => rfl
  · rw [hfault]
    rfl

/-- What a value is read as says which verb it was read for. -/
theorem verbName_ofVerb (verb : Verb) (value : String) :
    (ofVerb verb value).verbName =
      if verb.name = "remove_flag" ∧ (ofVerb verb value).isDegraded = false then "clear_flag"
      else verb.name := by
  rcases ofVerb_cases verb value with ⟨hname, hread⟩ | ⟨fault, hfault⟩
  · rw [hname, hread, Verb.name_meant]
    simp
  · rw [hfault]
    simp [verbName, isDegraded]

/-- Every action that is read of a word, `=` and a value goes by the word in small letters, except
that `remove_flag` goes by `clear_flag` if its value can be used. It is unknown exactly if the word
is none of the vocabulary, in which case it is alone, and the words of the vocabulary are read target
by target. -/
theorem reports_its_word (hword : Text.IsWord word) (value : String) :
    let name := asciiLower word
    let actions := parseList (word ++ valueMark ++ value)
    (∀ verb : Verb, verb.name = name → actions = (verb.targets (trim value)).map (ofVerb verb)) ∧
      (name ∉ "remove_flag" :: Verb.vocabulary → actions = [unknown name (trim value)]) ∧
      ∀ action ∈ actions,
        action.verbName = (if name = "remove_flag" ∧ action.isDegraded = false then "clear_flag"
          else name) ∧
        (action.isUnknown = true ↔ name ∉ "remove_flag" :: Verb.vocabulary) := by
  intro name actions
  have hactions : actions = ofVerbName name (trim value) := parseList_of_isWord hword value
  by_cases hknown : ∃ verb : Verb, verb.name = name
  · have hmem := Verb.mem_vocabulary_iff.mpr hknown
    obtain ⟨verb, hverb⟩ := hknown
    have hread : actions = (verb.targets (trim value)).map (ofVerb verb) := by
      rw [hactions, ← hverb, ofVerbName_name]
    refine ⟨?_, fun hnot => absurd hmem hnot, ?_⟩
    · intro other hother
      rw [Verb.eq_of_name_eq (hother.trans hverb.symm), hread]
    · intro action haction
      rw [hread] at haction
      obtain ⟨target, -, rfl⟩ := List.mem_map.mp haction
      refine ⟨hverb ▸ verbName_ofVerb verb target, ?_⟩
      rw [isUnknown_ofVerb]
      exact iff_of_false Bool.false_ne_true fun hnot => hnot hmem
  · have hread : actions = [unknown name (trim value)] := by
      rw [hactions, ofVerbName_of_unknown hknown]
    have hnot := Verb.mem_vocabulary_iff.not.mpr hknown
    refine ⟨fun verb hverb => absurd ⟨verb, hverb⟩ hknown, fun _ => hread, ?_⟩
    intro action haction
    rw [hread, List.mem_singleton] at haction
    subst haction
    refine ⟨?_, iff_of_true rfl hnot⟩
    have hname : name ≠ "remove_flag" := by
      intro hremove
      exact hnot (hremove ▸ List.mem_cons_self)
    rw [if_neg fun h => hname h.1]
    rfl

theorem failed_steps_are_reported :
    let actions := parseList "Fail_Step=mill__oil && mill"
    Text.IsWord "Fail_Step" ∧
      actions = [finishStep "mill" "oil" .failed,
        malformed .failStep "mill" (.shape "quest__part")] ∧
      ∀ action ∈ actions, action.verbName = "fail_step" ∧ action.isUnknown = false := by
  intro actions
  have hplain : "Fail_Step".toList.all (fun c => c != '=' && !Text.isBlank c) = true := rfl
  have hword : Text.IsWord "Fail_Step" := ⟨by decide, by simpa using hplain⟩
  refine ⟨hword, by decide +kernel, ?_⟩
  intro action haction
  obtain ⟨-, -, hall⟩ := reports_its_word hword "mill__oil && mill"
  obtain ⟨hname, hunknown⟩ := hall action haction
  have hknown : asciiLower "Fail_Step" ∈ "remove_flag" :: Verb.vocabulary := by decide +kernel
  refine ⟨?_, ?_⟩
  · rw [hname, if_neg fun h => absurd h.1 (by decide +kernel)]
    decide +kernel
  · rw [← Bool.not_eq_true, hunknown]
    exact not_not.mpr hknown

end Action

end StoryEngine
