import StoryEngine.Proofs.Script.Vocabulary
import StoryEngine.Script.Dispatch

/-! # Clearing flags

`clear_flag` and `remove_flag` are two words for one action, but only the first one lists its
targets. The second one takes flags joined by `&&` for a single flag of that name, so that the two
words come to the same for a value without `&&`, and for other values only where there is nothing to
clear.
-/

namespace StoryEngine

set_option autoImplicit false

open Text (trim occursIn)
open Script (splitList listMark valueMark)

namespace Dispatch

def clearNamed (stage : Stage) (flag : String) : Stage :=
  if flag = "" then stage else { stage with world := stage.world.clearFlag flag }

theorem hasFlag_clearNamed (stage : Stage) (first flag : String) :
    (clearNamed stage first).world.hasFlag flag = true ↔
      stage.world.hasFlag flag = true ∧ (flag = first → flag = "") := by
  unfold clearNamed
  split
  · next hempty => simp [hempty]
  · next hne =>
    rw [World.hasFlag, World.clearFlag, StringSet.has_erase, Bool.and_eq_true, bne_iff_ne, and_comm]
    apply and_congr_right
    intro _
    constructor
    · intro hother hsame
      exact absurd hsame hother
    · rintro hsame rfl
      exact hne (hsame rfl)

theorem hasFlag_foldl_clearNamed (stage : Stage) (flags : List String) (flag : String) :
    (flags.foldl clearNamed stage).world.hasFlag flag = true ↔
      stage.world.hasFlag flag = true ∧ (flag ∈ flags → flag = "") := by
  induction flags generalizing stage with
  | nil => simp
  | cons first rest ih =>
    rw [List.foldl_cons, ih, hasFlag_clearNamed, and_assoc, List.mem_cons, or_imp]

variable (place : Place) (scope : Scope) (stage : Stage) {verb : Verb}

/-- A target that names no flag is passed over. -/
theorem perform_ofVerb_clear (hverb : verb.meant = .clearFlag) (target : String) :
    perform place scope stage (.ofVerb verb target) =
      (clearNamed stage (trim target), .ok .proceed) := by
  have hbuild : Action.build target verb = (ActionField.name "flag" target).map .clearFlag := by
    cases verb with
    | clearFlag | removeFlag => rfl
    | _ => cases hverb
  rw [Action.ofVerb, hbuild, ActionField.name, clearNamed]
  by_cases hempty : trim target = ""
  · rw [if_pos hempty, if_pos hempty]
    rfl
  · rw [if_neg hempty, if_neg hempty]
    rfl

theorem performAll_ofVerb_clear (hverb : verb.meant = .clearFlag) (targets : List String) :
    performAll place scope stage (targets.map (.ofVerb verb)) =
      ((targets.map trim).foldl clearNamed stage, targets.map fun _ => .proceed, none) := by
  induction targets generalizing stage with
  | nil => rfl
  | cons first rest ih =>
    rw [List.map_cons, performAll, perform_ofVerb_clear place scope stage hverb]
    dsimp only
    rw [ih]
    rfl

theorem targets_trimmed (verb : Verb) (value : String) :
    (verb.targets (trim value)).map trim = verb.targets (trim value) := by
  have hplain : ∀ target ∈ verb.targets (trim value), trim target = id target := by
    intro target htarget
    unfold Verb.targets at htarget
    split at htarget
    · exact (Script.plain_of_mem_splitList (by decide) htarget).1
    · rw [List.mem_singleton.mp htarget]
      exact Text.trim_trim value
  rw [List.map_congr_left hplain, List.map_id]

theorem performAll_clear (verb : Verb) (hverb : verb.meant = .clearFlag) (value : String) :
    performAll place scope stage (Action.parseList (verb.name ++ valueMark ++ value)) =
      ((verb.targets (trim value)).foldl clearNamed stage,
        (verb.targets (trim value)).map fun _ => .proceed, none) := by
  rw [Action.parseList_of_isWord verb.isWord_name, verb.asciiLower_name, Action.ofVerbName_name,
    performAll_ofVerb_clear place scope stage hverb, targets_trimmed]

/-- The whole value and what it lists name the same flags of a world if the value is no list, and
otherwise only if the world has none of them. -/
theorem spared_alike_iff (w : World) {value : String} (htrim : trim value = value) :
    (∀ flag, w.hasFlag flag = true →
        ((flag = value → flag = "") ↔ flag ∉ splitList listMark value)) ↔
      occursIn listMark value = false ∨
        ∀ flag ∈ value :: splitList listMark value, w.hasFlag flag = false := by
  cases hmark : occursIn listMark value with
  | false =>
    refine iff_of_true ?_ (.inl rfl)
    intro flag _
    rw [Script.splitList_of_not_occursIn (by decide) hmark, htrim]
    simp
  | true =>
    -- The whole of a list is neither listed by it nor blank.
    have hnot : value ∉ splitList listMark value := by
      intro hmem
      have hplain := (Script.plain_of_mem_splitList (by decide) hmem).2.2
      rw [hmark] at hplain
      cases hplain
    have hne : value ≠ "" := by
      rintro rfl
      exact absurd hmark (by decide)
    rw [or_iff_right nofun]
    constructor
    · intro h flag hflag
      rw [← Bool.not_eq_true]
      intro hset
      rcases List.mem_cons.mp hflag with rfl | hlisted
      · exact hne ((h flag hset).mpr hnot rfl)
      · refine (h flag hset).mp ?_ hlisted
        rintro rfl
        exact absurd hlisted hnot
    · intro h flag hset
      have hother : flag ∉ value :: splitList listMark value := by
        intro hmem
        rw [h flag hmem] at hset
        cases hset
      rw [List.mem_cons, not_or] at hother
      exact iff_of_true (fun hsame => absurd hsame hother.1) hother.2

/-- Both words carry out all they read. `remove_flag` clears the one flag that the whole value names,
and `clear_flag` every flag that the value lists. They leave the same flags exactly if the value is
not a list or none of all these flags is set. -/
theorem remove_like_clear_iff (v : String) :
    let value := trim v
    let removed := performAll place scope stage (Action.parseList ("remove_flag=" ++ v))
    let cleared := performAll place scope stage (Action.parseList ("clear_flag=" ++ v))
    removed.2.2 = none ∧ cleared.2.2 = none ∧
      (∀ flag, removed.1.world.hasFlag flag = true ↔
        stage.world.hasFlag flag = true ∧ (flag = value → flag = "")) ∧
      (∀ flag, cleared.1.world.hasFlag flag = true ↔
        stage.world.hasFlag flag = true ∧ flag ∉ splitList listMark value) ∧
      ((∀ flag, removed.1.world.hasFlag flag = cleared.1.world.hasFlag flag) ↔
        occursIn listMark value = false ∨
          ∀ flag ∈ value :: splitList listMark value, stage.world.hasFlag flag = false) := by
  intro value removed cleared
  have hremove : removed = _ := performAll_clear place scope stage .removeFlag rfl v
  have hclear : cleared = _ := performAll_clear place scope stage .clearFlag rfl v
  have hremoved (flag : String) : removed.1.world.hasFlag flag = true ↔
      stage.world.hasFlag flag = true ∧ (flag = value → flag = "") := by
    rw [hremove, hasFlag_foldl_clearNamed]
    exact and_congr_right fun _ => imp_congr_left List.mem_singleton
  have hcleared (flag : String) : cleared.1.world.hasFlag flag = true ↔
      stage.world.hasFlag flag = true ∧ flag ∉ splitList listMark value := by
    rw [hclear, hasFlag_foldl_clearNamed]
    apply and_congr_right
    intro _
    constructor
    · intro hempty hmem
      exact (Script.plain_of_mem_splitList (by decide) hmem).2.1 (hempty hmem)
    · intro hnot hmem
      exact absurd hmem hnot
  refine ⟨by rw [hremove], by rw [hclear], hremoved, hcleared, ?_⟩
  rw [← spared_alike_iff stage.world (Text.trim_trim v)]
  refine forall_congr' fun flag => ?_
  rw [Bool.eq_iff_iff, hremoved, hcleared, and_congr_right_iff]

theorem joined_flags_stay :
    let place : Place := ⟨.blank "test_map" 16 16, 0⟩
    let scope : Scope := ⟨"test", none, "test#1"⟩
    let stage : Stage := ⟨((World.blank ∅).setFlag "a").setFlag "b", ∅⟩
    let removed := performAll place scope stage (Action.parseList "remove_flag=a&&b")
    let cleared := performAll place scope stage (Action.parseList "clear_flag=a&&b")
    removed.1.world.flags.keys = ["a", "b"] ∧ cleared.1.world.flags.keys = [] :=
  ⟨by decide +kernel, by decide +kernel⟩

end Dispatch

end StoryEngine
