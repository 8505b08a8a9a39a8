import StoryEngine.Proofs.Text.Pieces
import StoryEngine.Text.Numeral

/-! # Written numbers

A count is read from its digits, with any number of zeros in front of them, perhaps a plus sign in
front of these, and any blanks around.
-/

namespace StoryEngine

set_option autoImplicit false

namespace Text

theorem not_isBlank_of_isDigit {c : Char} (h : c.isDigit = true) : isBlank c = false := by
  obtain ⟨hfirst, hlast⟩ : 48 ≤ c.toNat ∧ c.toNat ≤ 57 := by
    simpa [Char.isDigit, UInt32.le_iff_toNat_le] using h
  simp [isBlank]
  omega

/-- A text is what is left when it is trimmed, with blanks around. -/
theorem exists_blanks_around (s : String) : ∃ front back, s = front ++ trim s ++ back ∧
    (∀ c ∈ front.toList, isBlank c = true) ∧ ∀ c ∈ back.toList, isBlank c = true := by
  refine ⟨.ofList (s.toList.takeWhile isBlank),
    .ofList ((s.toList.dropWhile isBlank).rtakeWhile isBlank), ?_, ?_, ?_⟩
  · rw [← String.toList_inj]
    simp [trimChars_eq, List.append_assoc, List.rdropWhile_append_rtakeWhile]
  · intro c hc
    rw [String.toList_ofList] at hc
    exact List.all_eq_true.mp List.all_takeWhile c hc
  · intro c hc
    rw [String.toList_ofList] at hc
    exact List.mem_rtakeWhile_imp hc

theorem trim_of_blanks_around {front s back : String}
    (hfront : ∀ c ∈ front.toList, isBlank c = true) (hplain : ∀ c ∈ s.toList, isBlank c = false)
    (hback : ∀ c ∈ back.toList, isBlank c = true) : trim (front ++ s ++ back) = s := by
  have hdrop : trimChars (front.toList ++ s.toList) = trimChars s.toList := by
    rw [trimChars_eq, List.dropWhile_append_of_pos hfront, trimChars_eq]
  rw [← String.toList_inj, toList_trim, String.toList_append, trimChars_append_of_blank hback,
    String.toList_append, hdrop, ← toList_trim, trim_of_plain hplain]

namespace Numeral

/-- A count as it may be written, and its value. -/
inductive Spells : String → Nat → Prop where
  | intro {front sign digits back : String}
      (hfront : ∀ c ∈ front.toList, isBlank c = true) (hsign : sign = "" ∨ sign = "+")
      (hne : digits ≠ "") (hdigits : ∀ c ∈ digits.toList, c.isDigit = true)
      (hback : ∀ c ∈ back.toList, isBlank c = true) :
      Spells (front ++ (sign ++ digits) ++ back) (Nat.ofDigitChars 10 digits.toList 0)

variable {s sign digits : String} {n bound : Nat}

theorem natBelow?_append (hsign : sign = "" ∨ sign = "+") (hne : digits ≠ "")
    (hdigits : ∀ c ∈ digits.toList, c.isDigit = true) :
    natBelow? bound (sign ++ digits) =
      (some (Nat.ofDigitChars 10 digits.toList 0)).filter (· < bound) := by
  have hread : digits? digits.toList = some (Nat.ofDigitChars 10 digits.toList 0) :=
    (digits?_eq_some_iff _ _).mpr ⟨String.toList_eq_nil_iff.not.mpr hne, hdigits, rfl⟩
  rcases hsign with rfl | rfl
  · rw [String.empty_append, natBelow?]
    split
    · -- A plus sign is no digit, so that none is taken off here.
      next rest hplus =>
      exact absurd (hdigits '+' (hplus ▸ List.mem_cons_self)) (by decide)
    · rw [hread]
  · have hplus : ("+" ++ digits).toList = '+' :: digits.toList := String.toList_append
    rw [natBelow?, hplus]
    exact congrArg _ hread

theorem exists_digits_of_natBelow? (h : natBelow? bound s = some n) :
    ∃ sign digits, s = sign ++ digits ∧ (sign = "" ∨ sign = "+") ∧ digits ≠ "" ∧
      (∀ c ∈ digits.toList, c.isDigit = true) ∧ Nat.ofDigitChars 10 digits.toList 0 = n := by
  obtain ⟨hread, -⟩ := Option.filter_eq_some_iff.mp h
  obtain ⟨hne, hdigits, hvalue⟩ := (digits?_eq_some_iff _ _).mp hread
  split at hne
  · next rest hs =>
    refine ⟨"+", .ofList rest, ?_, .inr rfl, ?_, ?_, ?_⟩
    · rw [← String.toList_inj, hs]
      simp
    · simpa using hne
    · simpa [hs] using hdigits
    · simpa [hs] using hvalue
  · refine ⟨"", s, String.empty_append.symm, .inl rfl, ?_, ?_, ?_⟩
    · simpa using hne
    · simpa using hdigits
    · simpa using hvalue

/-- With the blanks around it taken off, a count below the bound is read for what it is, and
nothing else is read. -/
theorem natBelow?_trim_eq_some_iff : natBelow? bound (trim s) = some n ↔ Spells s n ∧ n < bound := by
  constructor
  · intro h
    obtain ⟨sign, digits, htrim, hsign, hne, hdigits, rfl⟩ := exists_digits_of_natBelow? h
    obtain ⟨front, back, hs, hfront, hback⟩ := exists_blanks_around s
    rw [htrim] at hs
    rw [hs]
    exact ⟨.intro hfront hsign hne hdigits hback, lt_of_natBelow? _ _ _ h⟩
  · rintro ⟨⟨hfront, hsign, hne, hdigits, hback⟩, hless⟩
    rw [trim_of_blanks_around hfront ?_ hback, natBelow?_append hsign hne hdigits]
    · exact Option.filter_eq_some_iff.mpr ⟨rfl, decide_eq_true hless⟩
    · intro c hc
      rw [String.toList_append, List.mem_append] at hc
      rcases hc with hc | hc
      · rcases hsign with rfl | rfl
        · exact nomatch hc
        · rw [List.mem_singleton.mp hc]
          rfl
      · exact not_isBlank_of_isDigit (hdigits c hc)

theorem Spells.value_unique {m : Nat} (hm : Spells s m) (hn : Spells s n) : m = n := by
  have hreadM := natBelow?_trim_eq_some_iff.mpr ⟨hm, show m < m + n + 1 by omega⟩
  have hreadN := natBelow?_trim_eq_some_iff.mpr ⟨hn, show n < m + n + 1 by omega⟩
  exact Option.some.inj (hreadM.symm.trans hreadN)

/-- Nothing but blanks, a plus sign and digits stands in a written count. -/
theorem Spells.not_mem (h : Spells s n) {c : Char} (hplus : c ≠ '+') (hdigit : c.isDigit = false)
    (hblank : isBlank c = false) : c ∉ s.toList := by
  obtain ⟨hfront, hsign, -, hdigits, hback⟩ := h
  simp only [String.toList_append, List.mem_append]
  rintro ((hc | hc | hc) | hc)
  · exact absurd (hfront c hc) (Bool.eq_false_iff.mp hblank)
  · rcases hsign with rfl | rfl
    · exact nomatch hc
    · exact hplus (List.mem_singleton.mp hc)
  · exact absurd (hdigits c hc) (Bool.eq_false_iff.mp hdigit)
  · exact absurd (hback c hc) (Bool.eq_false_iff.mp hblank)

def padded (zeros n : Nat) : String := String.ofList (List.replicate zeros '0') ++ toString n

theorem toList_padded (zeros n : Nat) :
    (padded zeros n).toList = List.replicate zeros '0' ++ Nat.toDigits 10 n := by
  simp [padded]

theorem spells_padded (zeros n : Nat) : Spells (padded zeros n) n := by
  have hne : padded zeros n ≠ "" := by
    refine String.toList_eq_nil_iff.not.mp ?_
    rw [toList_padded]
    exact List.append_ne_nil_of_right_ne_nil _ Nat.toDigits_ne_nil
  have hdigits : ∀ c ∈ (padded zeros n).toList, c.isDigit = true := by
    intro c hc
    rw [toList_padded, List.mem_append] at hc
    rcases hc with hc | hc
    · rw [List.eq_of_mem_replicate hc]
      rfl
    · exact Nat.isDigit_of_mem_toDigits (by decide) (by decide) hc
  have hvalue : Nat.ofDigitChars 10 (padded zeros n).toList 0 = n := by
    rw [toList_padded, Nat.ofDigitChars_append, Nat.ofDigitChars_replicate_zero, Nat.mul_zero,
      Nat.ofDigitChars_ten_toDigits]
  have h := @Spells.intro "" "" (padded zeros n) "" nofun (.inl rfl) hne hdigits nofun
  rw [hvalue] at h
  simpa using h

end Numeral

end Text

end StoryEngine
