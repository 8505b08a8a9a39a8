import Mathlib.Data.List.DropRight
import StoryEngine.Script.Fields
import StoryEngine.Text.Ascii

/-! # Pieces of a text

Trimming takes blanks off the ends only and has nothing more to do the second time. A text is cut at
every separator by cutting it at the first one and then cutting the rest.
-/

namespace StoryEngine

set_option autoImplicit false

namespace Text

section

variable {c : Char} {s : List Char}

theorem trimChars_eq (s : List Char) :
    trimChars s = (s.dropWhile isBlank).rdropWhile isBlank := rfl

theorem mem_dropWhile_isBlank (h : c ∈ s) (hc : isBlank c = false) : c ∈ s.dropWhile isBlank := by
  rw [← List.takeWhile_append_dropWhile (p := isBlank) (l := s), List.mem_append] at h
  rcases h with h | h
  · have hblank := List.all_eq_true.mp List.all_takeWhile c h
    rw [hc] at hblank
    cases hblank
  · exact h

theorem mem_trimChars (h : c ∈ s) (hc : isBlank c = false) : c ∈ trimChars s :=
  List.mem_reverse.mpr
    (mem_dropWhile_isBlank (List.mem_reverse.mpr (mem_dropWhile_isBlank h hc)) hc)

theorem trimChars_trimChars (s : List Char) : trimChars (trimChars s) = trimChars s := by
  -- What is left begins with the first character of the text that is not blank.
  have hfirst : (trimChars s).dropWhile isBlank = trimChars s := by
    obtain ⟨more, hmore⟩ := List.rdropWhile_prefix isBlank (s.dropWhile isBlank)
    cases ht : trimChars s with
    | nil => rfl
    | cons c cs =>
      have hbegins : s.dropWhile isBlank = c :: (cs ++ more) := by
        rw [← hmore, ← trimChars_eq, ht, List.cons_append]
      have hc : isBlank c = false := by
        have hdone := List.dropWhile_idempotent isBlank s
        rw [hbegins, List.dropWhile_cons] at hdone
        cases hblank : isBlank c with
        | false => rfl
        | true =>
          have hlength := congrArg List.length hdone
          have hle := (List.dropWhile_suffix isBlank (l := cs ++ more)).length_le
          simp only [hblank, if_true, List.length_cons] at hlength
          omega
      rw [List.dropWhile_cons, hc]
      rfl
  rw [trimChars_eq (trimChars s), hfirst, trimChars_eq, List.rdropWhile_idempotent]

theorem rdropWhile_isBlank_cons {c : Char} (hc : isBlank c = false) (s : List Char) :
    (c :: s).rdropWhile isBlank = c :: s.rdropWhile isBlank := by
  rw [List.rdropWhile, List.reverse_cons, List.dropWhile_append]
  split
  · next hempty => simp [List.rdropWhile, List.isEmpty_iff.mp hempty, hc]
  · simp [List.rdropWhile]

theorem trimChars_append_of_blank {s blanks : List Char} (h : ∀ c ∈ blanks, isBlank c = true) :
    trimChars (s ++ blanks) = trimChars s := by
  simp only [trimChars_eq]
  rw [List.dropWhile_append]
  split
  · next hempty =>
    rw [List.isEmpty_iff.mp hempty, (dropWhile_isBlank_eq_nil_iff blanks).mpr h]
  · have hnone : blanks.reverse.dropWhile isBlank = [] :=
      (dropWhile_isBlank_eq_nil_iff _).mpr fun c hc => h c (List.mem_reverse.mp hc)
    rw [List.rdropWhile, List.reverse_append, List.dropWhile_append, hnone]
    rfl

theorem trimChars_rdropWhile (s : List Char) : trimChars (s.rdropWhile isBlank) = trimChars s := by
  have hblank : ∀ c ∈ s.rtakeWhile isBlank, isBlank c = true :=
    fun c hc => List.mem_rtakeWhile_imp hc
  rw [← trimChars_append_of_blank hblank, List.rdropWhile_append_rtakeWhile]

theorem trimChars_infix (s : List Char) : trimChars s <:+: s :=
  (List.rdropWhile_prefix isBlank _).isInfix.trans (List.dropWhile_suffix isBlank).isInfix

/-- What has no blank in it shields what follows it from being trimmed in front. -/
theorem trimChars_append {front : List Char} (hne : front ≠ [])
    (hplain : ∀ c ∈ front, isBlank c = false) (s : List Char) :
    trimChars (front ++ s) = front ++ s.rdropWhile isBlank := by
  have hback (front : List Char) (hplain : ∀ c ∈ front, isBlank c = false) :
      (front ++ s).rdropWhile isBlank = front ++ s.rdropWhile isBlank := by
    induction front with
    | nil => rfl
    | cons c front ih =>
      rw [List.cons_append, rdropWhile_isBlank_cons (hplain c List.mem_cons_self),
        ih fun d hd => hplain d (List.mem_cons_of_mem c hd), List.cons_append]
  obtain ⟨c, rest, rfl⟩ := List.exists_cons_of_ne_nil hne
  have hfirst : (c :: rest ++ s).dropWhile isBlank = c :: rest ++ s := by
    rw [List.cons_append, List.dropWhile_cons, hplain c List.mem_cons_self]
    rfl
  rw [trimChars_eq, hfirst, hback _ hplain]

end

@[simp] theorem trim_trim (s : String) : trim (trim s) = trim s := by
  simp [← String.toList_inj, trimChars_trimChars]

theorem mem_trim {c : Char} {s : String} (h : c ∈ s.toList) (hc : isBlank c = false) :
    c ∈ (trim s).toList := by
  rw [toList_trim]
  exact mem_trimChars h hc

theorem trim_append {front : String} (hne : front ≠ "")
    (hplain : ∀ c ∈ front.toList, isBlank c = false) (s : String) :
    ∃ rest, trim (front ++ s) = front ++ rest ∧ trim rest = trim s := by
  refine ⟨.ofList (s.toList.rdropWhile isBlank), ?_, ?_⟩
  · rw [← String.toList_inj]
    simp [trimChars_append (String.toList_eq_nil_iff.not.mpr hne) hplain]
  · simp [← String.toList_inj, trimChars_rdropWhile]

theorem trim_of_plain {s : String} (h : ∀ c ∈ s.toList, isBlank c = false) : trim s = s := by
  by_cases hempty : s = ""
  · rw [hempty]
    rfl
  · have hne : s.toList ≠ [] := String.toList_eq_nil_iff.not.mpr hempty
    rw [← String.toList_inj, toList_trim]
    simpa using trimChars_append hne h []

/-- The capital letters are not blank, so that no blank has a small form. -/
theorem toLower_of_isBlank {c : Char} (h : isBlank c = true) : c.toLower = c := by
  unfold Char.toLower
  split
  · next hcapital =>
    have hfirst : 65 ≤ c.toNat := UInt32.le_iff_toNat_le.mp hcapital.1
    have hlast : c.toNat ≤ 90 := UInt32.le_iff_toNat_le.mp hcapital.2
    simp [isBlank] at h
    omega
  · rfl

section

variable {sep a b s : List Char} {c : Char}

theorem cutFirst_append (ha : c ∉ a) (b : List Char) : cutFirst [c] (a ++ c :: b) = some (a, b) := by
  induction a with
  | nil => simp [cutFirst, afterStart?]
  | cons d a ih =>
    simp only [List.mem_cons, not_or] at ha
    simp [cutFirst, afterStart?, ha.1, ih ha.2]

theorem cutAllFrom_append (sep passed rest : List Char) :
    cutAllFrom sep passed.length (passed ++ rest) = cutAll sep rest := by
  induction passed with
  | nil => rfl
  | cons c passed ih => exact ih

theorem isPrefixOf_eq_isSome_afterStart? (sep s : List Char) :
    sep.isPrefixOf s = (afterStart? sep s).isSome := by
  rw [Bool.eq_iff_iff, List.isPrefixOf_iff_prefix, Option.isSome_iff_exists]
  exact exists_congr fun rest => (afterStart?_eq_some_iff sep s rest).symm

theorem afterStart?_eq_none_iff : afterStart? sep s = none ↔ ¬sep <+: s := by
  rw [← List.isPrefixOf_iff_prefix, isPrefixOf_eq_isSome_afterStart?, Bool.not_eq_true,
    Option.isSome_eq_false_iff, Option.isNone_iff_eq_none]

/-- To cut everywhere is to cut at the first separator and then to cut the rest. -/
theorem cutAll_eq (hsep : sep ≠ []) (s : List Char) :
    cutAll sep s =
      match cutFirst sep s with
      | none => [s]
      | some (a, b) => a :: cutAll sep b := by
  induction s with
  | nil => rfl
  | cons c cs ih =>
    rw [cutAll, cutAllFrom, cutFirst, isPrefixOf_eq_isSome_afterStart?]
    cases hstart : afterStart? sep (c :: cs) with
    | some rest =>
      obtain ⟨d, ds, rfl⟩ := List.exists_cons_of_ne_nil hsep
      obtain ⟨-, rfl⟩ := List.cons.inj ((afterStart?_eq_some_iff _ _ rest).mp hstart)
      exact congrArg ([] :: ·) (cutAllFrom_append (d :: ds) ds rest)
    | none =>
      change consFirst c (cutAll sep cs) = _
      rw [ih]
      cases cutFirst sep cs with
      | none => rfl
      | some parts => rfl

theorem cutAll_ne_nil (hsep : sep ≠ []) (s : List Char) : cutAll sep s ≠ [] := by
  rw [cutAll_eq hsep]
  split <;> exact List.cons_ne_nil _ _

theorem cutFirst_eq_none_iff {sep s : List Char} (hsep : sep ≠ []) :
    cutFirst sep s = none ↔ ¬sep <:+: s := by
  induction s with
  | nil => simp [cutFirst, hsep]
  | cons c cs ih =>
    rw [cutFirst, List.infix_cons_iff, not_or, ← ih, ← afterStart?_eq_none_iff]
    cases afterStart? sep (c :: cs) <;> simp

theorem not_infix_of_cutFirst {sep s a b : List Char} (hsep : sep ≠ [])
    (h : cutFirst sep s = some (a, b)) : ¬sep <:+: a := by
  induction s generalizing a with
  | nil => cases h
  | cons c cs ih =>
    rw [cutFirst] at h
    split at h
    · cases h
      simpa using hsep
    · next hstart =>
      obtain ⟨⟨front, rest⟩, hcut, hparts⟩ := Option.map_eq_some_iff.mp h
      cases hparts
      intro hin
      rcases List.infix_cons_iff.mp hin with ⟨more, hmore⟩ | hlater
      · have hwhole := append_of_cutFirst sep cs front rest hcut
        have : afterStart? sep (c :: cs) = some (more ++ sep ++ rest) := by
          rw [afterStart?_eq_some_iff, ← hwhole]
          simp [← List.append_assoc, hmore]
        rw [hstart] at this
        cases this
      · exact ih hcut hlater

theorem length_lt_of_cutFirst (hsep : sep ≠ []) {front rest : List Char}
    (h : cutFirst sep s = some (front, rest)) : rest.length < s.length := by
  have hlength := congrArg List.length (append_of_cutFirst _ _ _ _ h)
  have hpos := List.length_pos_iff.mpr hsep
  simp only [List.length_append] at hlength
  omega

theorem not_infix_of_mem_cutAll {sep piece : List Char} (hsep : sep ≠ []) {s : List Char}
    (h : piece ∈ cutAll sep s) : ¬sep <:+: piece := by
  induction hn : s.length using Nat.strongRecOn generalizing s with
  | ind n ih =>
  rw [cutAll_eq hsep] at h
  split at h
  · next hnone =>
    rw [List.mem_singleton.mp h]
    exact (cutFirst_eq_none_iff hsep).mp hnone
  · next a b hcut =>
    rcases List.mem_cons.mp h with rfl | h
    · exact not_infix_of_cutFirst hsep hcut
    · exact ih b.length (hn ▸ length_lt_of_cutFirst hsep hcut) h rfl

end

theorem splitAll_eq {sep : String} (hsep : sep ≠ "") (s : String) :
    splitAll sep s =
      match splitFirst sep s with
      | none => [s]
      | some (a, b) => a :: splitAll sep b := by
  have hne : sep.toList ≠ [] := fun h => hsep (String.toList_eq_nil_iff.mp h)
  rw [splitAll, cutAll_eq hne, splitFirst]
  cases cutFirst sep.toList s.toList with
  | none => simp
  | some parts => simp [splitAll]

theorem mem_of_occursIn {sep s : String} {c : Char} (h : occursIn sep s = true)
    (hc : c ∈ sep.toList) : c ∈ s.toList := by
  obtain ⟨⟨a, b⟩, hcut⟩ := Option.isSome_iff_exists.mp h
  rw [← append_of_splitFirst _ _ _ _ hcut]
  simp [hc]

theorem occursIn_iff_infix {sep s : String} (hsep : sep ≠ "") :
    occursIn sep s = true ↔ sep.toList <:+: s.toList := by
  have hne : sep.toList ≠ [] := String.toList_eq_nil_iff.not.mpr hsep
  rw [← not_iff_not, ← cutFirst_eq_none_iff hne, occursIn, splitFirst, Bool.not_eq_true,
    Option.isSome_eq_false_iff, Option.isNone_iff_eq_none, Option.map_eq_none_iff]

theorem not_occursIn_of_mem_splitAll {sep s piece : String} (hsep : sep ≠ "")
    (h : piece ∈ splitAll sep s) : occursIn sep piece = false := by
  have hne : sep.toList ≠ [] := String.toList_eq_nil_iff.not.mpr hsep
  obtain ⟨chars, hchars, rfl⟩ := List.mem_map.mp h
  rw [← Bool.not_eq_true, occursIn_iff_infix hsep]
  simpa using not_infix_of_mem_cutAll hne hchars

theorem splitAll_ne_nil {sep : String} (hsep : sep ≠ "") (s : String) : splitAll sep s ≠ [] := by
  have hne : sep.toList ≠ [] := String.toList_eq_nil_iff.not.mpr hsep
  exact List.map_eq_nil_iff.not.mpr (cutAll_ne_nil hne s.toList)

theorem consFirst_eq_modifyHead (c : Char) {pieces : List (List Char)} (h : pieces ≠ []) :
    consFirst c pieces = pieces.modifyHead (List.cons c) := by
  cases pieces with
  | nil => exact absurd rfl h
  | cons piece rest => rfl

theorem cutAll_singleton (sep : Char) (s : List Char) : cutAll [sep] s = s.splitOn sep := by
  unfold cutAll
  induction s with
  | nil => exact (List.splitOn_nil sep).symm
  | cons c rest ih =>
    rw [cutAllFrom, List.splitOn_cons_eq_if_modifyHead]
    by_cases hc : sep = c
    · rw [if_pos (by simp [hc]), if_pos (by simp [hc])]
      exact congrArg _ ih
    · rw [if_neg (by simp [hc]), if_neg (by simpa using Ne.symm hc), ih,
        consFirst_eq_modifyHead c (List.splitOn_ne_nil sep rest)]

theorem not_mem_of_mem_splitOn {sep : Char} {s piece : List Char} (h : piece ∈ s.splitOn sep) :
    sep ∉ piece := by
  rw [← cutAll_singleton] at h
  intro hmem
  obtain ⟨before, behind, hpiece⟩ := List.mem_iff_append.mp hmem
  exact not_infix_of_mem_cutAll (List.cons_ne_nil sep []) h ⟨before, behind, by simp [hpiece]⟩

/-- The pieces of a text are those that do not have the character and are the text when they are
joined with it. -/
theorem cutAll_singleton_eq_iff {sep : Char} {s : List Char} {pieces : List (List Char)} :
    cutAll [sep] s = pieces ↔
      [sep].intercalate pieces = s ∧ pieces ≠ [] ∧ ∀ piece ∈ pieces, sep ∉ piece := by
  rw [cutAll_singleton]
  constructor
  · rintro rfl
    exact ⟨List.intercalate_splitOn sep, List.splitOn_ne_nil sep s,
      fun piece => not_mem_of_mem_splitOn⟩
  · rintro ⟨rfl, hne, hplain⟩
    exact List.splitOn_intercalate sep hplain hne

theorem splitAll_eq_iff {sep s : String} {c : Char} (hsep : sep.toList = [c])
    {pieces : List String} :
    splitAll sep s = pieces ↔
      sep.intercalate pieces = s ∧ pieces ≠ [] ∧ ∀ piece ∈ pieces, c ∉ piece.toList := by
  have hchars : splitAll sep s = pieces ↔ cutAll [c] s.toList = pieces.map String.toList := by
    rw [splitAll, hsep]
    constructor
    · rintro rfl
      simp [Function.comp_def]
    · intro h
      simp [h, Function.comp_def]
  rw [hchars, cutAll_singleton_eq_iff, ← hsep, ← String.toList_intercalate, String.toList_inj]
  simp

/-- The last mark of a text divides it in only one way. -/
theorem eq_of_last_mark {mark : Char} {a b front back : List Char} (ha : mark ∉ a)
    (hb : mark ∉ b) (h : front ++ mark :: a = back ++ mark :: b) : front = back ∧ a = b := by
  rcases List.append_eq_append_iff.mp h with ⟨between, rfl, hrest⟩ | ⟨between, rfl, hrest⟩
  · rcases between with _ | ⟨c, between⟩
    · exact ⟨(List.append_nil front).symm, (List.cons.inj hrest).2⟩
    · exact absurd ((List.cons.inj hrest).2 ▸ List.mem_append_right _ List.mem_cons_self) ha
  · rcases between with _ | ⟨c, between⟩
    · exact ⟨List.append_nil back, (List.cons.inj hrest).2.symm⟩
    · exact absurd ((List.cons.inj hrest).2 ▸ List.mem_append_right _ List.mem_cons_self) hb

end Text

namespace Script

open Text (trim splitFirst splitAll occursIn)

theorem fields_of_splitFirst {value first rest : String}
    (h : splitFirst fieldMark value = some (first, rest)) :
    fields value = trim first :: fields rest := by
  rw [fields, Text.splitAll_eq (by decide), h]
  rfl

theorem fields_of_not_occursIn {value : String} (h : occursIn fieldMark value = false) :
    fields value = [trim value] := by
  rw [occursIn, Option.isSome_eq_false_iff, Option.isNone_iff_eq_none] at h
  rw [fields, Text.splitAll_eq (by decide), h]
  rfl

theorem fields_ne_nil (value : String) : fields value ≠ [] := by
  simpa [fields] using Text.splitAll_ne_nil (by decide) value

theorem splitList_eq_nil_iff {sep s : String} :
    splitList sep s = [] ↔ ∀ piece ∈ splitAll sep s, trim piece = "" := by
  simp [splitList]

theorem splitList_of_not_occursIn {sep s : String} (hsep : sep ≠ "")
    (h : occursIn sep s = false) : splitList sep s = [trim s].filter (· ≠ "") := by
  rw [occursIn, Option.isSome_eq_false_iff, Option.isNone_iff_eq_none] at h
  rw [splitList, Text.splitAll_eq hsep, h]
  rfl

/-- What is listed is trimmed, not blank, and has no mark in it. -/
theorem plain_of_mem_splitList {sep s piece : String} (hsep : sep ≠ "")
    (h : piece ∈ splitList sep s) : trim piece = piece ∧ piece ≠ "" ∧ occursIn sep piece = false := by
  obtain ⟨hpiece, hne⟩ := List.mem_filter.mp h
  obtain ⟨whole, hwhole, rfl⟩ := List.mem_map.mp hpiece
  refine ⟨Text.trim_trim whole, of_decide_eq_true hne, ?_⟩
  have hmark := Text.not_occursIn_of_mem_splitAll hsep hwhole
  rw [← Bool.not_eq_true, Text.occursIn_iff_infix hsep] at hmark ⊢
  intro hin
  rw [Text.toList_trim] at hin
  exact hmark (hin.trans (Text.trimChars_infix whole.toList))

theorem keyValue?_append {key : String} (hkey : '=' ∉ key.toList) (hne : trim key ≠ "")
    (value : String) : keyValue? (key ++ valueMark ++ value) = some (trim key, trim value) := by
  have hcut : splitFirst valueMark (key ++ valueMark ++ value) = some (key, value) := by
    have := Text.cutFirst_append hkey value.toList
    simp_all [splitFirst, valueMark]
  rw [keyValue?, hcut]
  exact if_neg hne

/-- The key is what stands in front of the first `=`, and the value is the rest. -/
def IsKeyValue (token key value : String) : Prop :=
  ∃ front rest, token = front ++ valueMark ++ rest ∧ '=' ∉ front.toList ∧
    key = trim front ∧ value = trim rest

theorem not_mem_of_splitFirst_valueMark {token front rest : String}
    (h : splitFirst valueMark token = some (front, rest)) : '=' ∉ front.toList := by
  obtain ⟨⟨a, b⟩, hcut, hparts⟩ := Option.map_eq_some_iff.mp h
  cases hparts
  intro hmem
  obtain ⟨before, behind, hsplit⟩ := List.mem_iff_append.mp hmem
  apply Text.not_infix_of_cutFirst (by decide) hcut
  exact ⟨before, behind, by simpa [valueMark] using hsplit.symm⟩

theorem keyValue?_eq_some_iff {token key value : String} :
    keyValue? token = some (key, value) ↔ IsKeyValue token key value ∧ key ≠ "" := by
  constructor
  · intro h
    unfold keyValue? at h
    split at h
    · next front rest hcut =>
      split at h
      · cases h
      · next hne =>
        cases h
        exact ⟨⟨front, rest, (Text.append_of_splitFirst _ _ _ _ hcut).symm,
          not_mem_of_splitFirst_valueMark hcut, rfl, rfl⟩, hne⟩
    · cases h
  · rintro ⟨⟨front, rest, rfl, hplain, rfl, rfl⟩, hne⟩
    exact keyValue?_append hplain hne rest

end Script

end StoryEngine
