import StoryEngine.Proofs.Dialog.Translation
import StoryEngine.Text.Ascii

/-! # Words of a dictionary

The dictionary is asked for a word in small letters, and keeps its own words as they are spelled. So
a word that it spells with capitals is translated, in whatever letter case it comes, exactly if the
dictionary has it in small letters as well.
-/

namespace StoryEngine

set_option autoImplicit false

open Text (isAlphanumeric isUppercase lowerChar lowerChars asciiLower sameName HasCore)

/-- A word of the letters A to Z in any case. -/
structure Text.InLetters (word : String) : Prop where
  ne_empty : word ≠ ""
  letters : ∀ c ∈ word.toList, c.isAlpha = true

namespace Text

theorem ascii_letters : ∀ n : Fin 128, (Char.ofNat n).isAlpha = true →
    isAlphanumeric (Char.ofNat n) = true ∧ lowerChar (Char.ofNat n) = [(Char.ofNat n).toLower] ∧
      (Char.ofNat n).toLower.isAlpha = true ∧
      (Char.ofNat n).toLower.toLower = (Char.ofNat n).toLower := by
  decide +kernel

theorem letter_spec {c : Char} (h : c.isAlpha = true) :
    isAlphanumeric c = true ∧ lowerChar c = [c.toLower] ∧ c.toLower.isAlpha = true ∧
      c.toLower.toLower = c.toLower := by
  have hsmall : c.toNat < 128 := by
    rcases Bool.or_eq_true_iff.mp h with hupper | hlower
    · have hlast : c.toNat ≤ 90 := UInt32.le_iff_toNat_le.mp (of_decide_eq_true hupper).2
      omega
    · have hlast : c.toNat ≤ 122 :=
        UInt32.le_iff_toNat_le.mp (of_decide_eq_true (Bool.and_eq_true_iff.mp hlower).2)
      omega
  have hletter := ascii_letters ⟨c.toNat, hsmall⟩
  rw [Char.ofNat_toNat] at hletter
  exact hletter h

theorem isAlpha_of_toLower {c : Char} (h : c.toLower.isAlpha = true) : c.isAlpha = true := by
  unfold Char.toLower at h
  split at h
  · next hcapital =>
    exact Bool.or_eq_true_iff.mpr (.inl (decide_eq_true hcapital))
  · exact h

theorem lowerCharsAfter_of_letters {s : List Char} (h : ∀ c ∈ s, c.isAlpha = true)
    (before : List Char) : lowerCharsAfter before s = s.map Char.toLower := by
  induction s generalizing before with
  | nil => rfl
  | cons c s ih =>
    rw [List.forall_mem_cons] at h
    have hsigma : (c == 'Σ') = false := by
      rw [beq_eq_false_iff_ne]
      rintro rfl
      exact absurd h.1 (by decide)
    rw [lowerCharsAfter, hsigma, ih h.2, (letter_spec h.1).2.1]
    rfl

variable {word key : String}

namespace InLetters

theorem lower_eq (h : InLetters word) : .ofList (lowerChars word.toList) = asciiLower word := by
  rw [lowerChars, lowerCharsAfter_of_letters h.letters, asciiLower]

/-- A word keeps to the letters if only their case is changed. -/
theorem of_sameName (h : InLetters key) (hword : sameName word key = true) : InLetters word := by
  have hlower := congrArg String.toList ((sameName_iff word key).mp hword)
  rw [toList_asciiLower, toList_asciiLower] at hlower
  constructor
  · rintro rfl
    exact h.ne_empty (String.toList_eq_nil_iff.mp (List.map_eq_nil_iff.mp hlower.symm))
  · intro c hc
    have hmem : c.toLower ∈ key.toList.map Char.toLower := hlower ▸ List.mem_map_of_mem hc
    obtain ⟨d, hd, heq⟩ := List.mem_map.mp hmem
    exact isAlpha_of_toLower (heq ▸ (letter_spec (h.letters d hd)).2.2.1)

theorem sameName_asciiLower (h : InLetters word) : sameName (asciiLower word) word = true := by
  rw [sameName_iff, ← String.toList_inj, toList_asciiLower, toList_asciiLower, List.map_map]
  exact List.map_congr_left fun c hc => (letter_spec (h.letters c hc)).2.2.2

theorem hasCore (h : InLetters word) : HasCore word.toList [] word.toList [] := by
  have hne : word.toList ≠ [] := String.toList_eq_nil_iff.not.mpr h.ne_empty
  have hletter (c : Char) (hc : c ∈ word.toList) : isAlphanumeric c = true :=
    (letter_spec (h.letters c hc)).1
  refine ⟨by simp, nofun, nofun, ?_, ?_⟩
  · obtain ⟨c, rest, hword⟩ := List.exists_cons_of_ne_nil hne
    exact ⟨c, rest, hword, hletter c (hword ▸ List.mem_cons_self)⟩
  · obtain ⟨rest, c, hword⟩ := (List.eq_nil_or_concat' _).resolve_left hne
    exact ⟨rest, c, hword, hletter c (by simp [hword])⟩

theorem no_space (h : InLetters word) : ' ' ∉ word.toList :=
  fun hspace => absurd (h.letters ' ' hspace) (by decide)

end InLetters

end Text

namespace Language

variable (language : Language)

/-- An entry that is the word but for its letter case is found for the word and replaces it. -/
structure Replaces (word entry foreign : String) : Prop where
  same : sameName entry word = true
  listed : language.dictionary.get? entry = some foreign
  found : language.lookup? word.toList = some foreign.toList
  replaced : language.translate word = .ofList (inCaseOf word.toList foreign.toList)

variable {word key : String}

theorem translate_of_inLetters (h : Text.InLetters word) :
    language.translate word =
      match language.dictionary.get? (asciiLower word) with
      | none => word
      | some foreign => .ofList (inCaseOf word.toList foreign.toList) := by
  rw [language.translate_of_word h.no_space, language.translateWord_of_hasCore h.hasCore,
    h.lower_eq]
  cases language.dictionary.get? (asciiLower word) with
  | none => exact String.ofList_toList
  | some foreign => simp

theorem exists_replaces_iff (h : Text.InLetters word) :
    (∃ entry foreign, language.Replaces word entry foreign) ↔
      asciiLower word ∈ language.dictionary.keys := by
  rw [← StringMap.contains_iff_mem_keys, StringMap.contains, Option.isSome_iff_exists]
  constructor
  · rintro ⟨entry, foreign, hreplaces⟩
    obtain ⟨small, hsmall, -⟩ := Option.map_eq_some_iff.mp hreplaces.found
    exact ⟨small, h.lower_eq ▸ hsmall⟩
  · rintro ⟨foreign, hforeign⟩
    refine ⟨asciiLower word, foreign, h.sameName_asciiLower, hforeign, ?_, ?_⟩
    · rw [lookup?, h.lower_eq, hforeign]
      rfl
    · rw [language.translate_of_inLetters h, hforeign]

/-- A word of letters is translated by the entry for its small letters, with a capital if it begins
with one, and stays as it is where there is no such entry. So every word of the dictionary, in all
of its spellings, is replaced by an entry for it exactly if the dictionary has each of its words in
small letters. -/
theorem dictionary_words_replaced_iff :
    (∀ key word, Text.InLetters key → sameName word key = true →
      language.translate word =
        (match language.dictionary.get? (asciiLower key) with
        | none => word
        | some foreign => .ofList (inCaseOf word.toList foreign.toList)) ∧
      ((∃ entry foreign, language.Replaces word entry foreign) ↔
        asciiLower key ∈ language.dictionary.keys)) ∧
    ((∀ key ∈ language.dictionary.keys, Text.InLetters key → ∀ word, sameName word key = true →
        ∃ entry foreign, language.Replaces word entry foreign) ↔
      ∀ key ∈ language.dictionary.keys, Text.InLetters key →
        asciiLower key ∈ language.dictionary.keys) := by
  have hword (key word : String) (hkey : Text.InLetters key) (hsame : sameName word key = true) :
      (∃ entry foreign, language.Replaces word entry foreign) ↔
        asciiLower key ∈ language.dictionary.keys := by
    rw [← (Text.sameName_iff word key).mp hsame]
    exact language.exists_replaces_iff (hkey.of_sameName hsame)
  refine ⟨fun key word hkey hsame => ⟨?_, hword key word hkey hsame⟩, ?_⟩
  · rw [← (Text.sameName_iff word key).mp hsame]
    exact language.translate_of_inLetters (hkey.of_sameName hsame)
  · refine forall_congr' fun key => forall_congr' fun _ => forall_congr' fun hkey => ?_
    constructor
    · intro hall
      exact (hword key key hkey (Text.sameName_self key)).mp (hall key (Text.sameName_self key))
    · intro hsmall word hsame
      exact (hword key word hkey hsame).mpr hsmall

theorem gold_is_shiny_in_any_case :
    let language : Language := ⟨1, .ofList [("Gold", "coin"), ("gold", "shiny")]⟩
    Text.InLetters "Gold" ∧ sameName "GOLD" "Gold" = true ∧ "Gold" ∈ language.dictionary.keys ∧
      (∀ key ∈ language.dictionary.keys, asciiLower key ∈ language.dictionary.keys) ∧
      language.translate "GOLD" = "Shiny" ∧
      ∃ entry foreign, language.Replaces "GOLD" entry foreign := by
  intro language
  have hletters : Text.InLetters "Gold" := ⟨by decide, List.all_eq_true.mp (by decide +kernel)⟩
  have hsame : sameName "GOLD" "Gold" = true := by decide +kernel
  have hkey : "Gold" ∈ language.dictionary.keys := by decide +kernel
  have hsmall : ∀ key ∈ language.dictionary.keys, asciiLower key ∈ language.dictionary.keys := by
    decide +kernel
  obtain ⟨hwords, hall⟩ := language.dictionary_words_replaced_iff
  refine ⟨hletters, hsame, hkey, hsmall, ?_, ?_⟩
  · rw [(hwords "Gold" "GOLD" hletters hsame).1]
    decide +kernel
  · exact hall.mpr (fun key hmem _ => hsmall key hmem) "Gold" hkey hletters "GOLD" hsame

/-- A word of the dictionary that is spelled with a capital is found for no spelling. -/
theorem capital_gold_stays_gold :
    let language : Language := ⟨1, .ofList [("Gold", "shiny")]⟩
    "Gold" ∈ language.dictionary.keys ∧ Text.InLetters "Gold" ∧
      language.translate "Gold" = "Gold" ∧ language.translate "gold" = "gold" ∧
      ¬∃ entry foreign, language.Replaces "Gold" entry foreign := by
  intro language
  have hletters : Text.InLetters "Gold" := ⟨by decide, List.all_eq_true.mp (by decide +kernel)⟩
  refine ⟨by decide +kernel, hletters, by decide +kernel, by decide +kernel, ?_⟩
  rintro ⟨entry, foreign, hreplaces⟩
  have hnone : language.lookup? "Gold".toList = none := by decide +kernel
  have hfound := hreplaces.found
  rw [hnone] at hfound
  cases hfound

end Language

end StoryEngine
