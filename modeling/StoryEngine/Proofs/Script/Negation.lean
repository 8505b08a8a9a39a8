import StoryEngine.Proofs.Script.Conditions

/-! # Negated conditions

The mark of negation is taken off before anything else is read, so that it reaches whatever stands
behind it, a test of the vocabulary or the flag of a token that is none. What is kept of a token is
the token without the blanks around it.
-/

namespace StoryEngine

set_option autoImplicit false

open Text (trim)

namespace Condition

theorem holds_eq_not {c negation : Condition} (hsame : negation.predicate = c.predicate)
    (hc : c.negated = false) (hnegation : negation.negated = true) (w : World)
    (master : Option Handle) : negation.holds w master = !c.holds w master := by
  simp [holds, hsame, hc, hnegation]

theorem parse?_trim (raw : String) : parse? (trim raw) = parse? raw := by
  simp only [parse?, Text.trim_trim]

theorem splits_negationMark (token : String) :
    Splits (negationMark ++ token) true (trim token) := by
  have hplain : ∀ c ∈ negationMark.toList, Text.isBlank c = false := by
    intro c hc
    rw [List.mem_singleton.mp hc]
    rfl
  obtain ⟨rest, hrest, htrim⟩ := Text.trim_append (by decide) hplain token
  rw [← htrim]
  exact .negated hrest

/-- With the mark of negation a token asks the same test, which is the flag of the token without the
mark where it is no test of the vocabulary, and holds exactly where the token alone does not. What
is kept of a token reads as the token does. -/
theorem negation_exact :
    (∀ token, trim token ≠ "" → (∀ rest, trim token ≠ negationMark ++ rest) →
      ∃ c negation, parse? token = some c ∧ parse? (negationMark ++ token) = some negation ∧
        negation.predicate = c.predicate ∧
        (∀ w master, negation.holds w master = !c.holds w master) ∧
        ∀ name, c.predicate = .flag name → name = trim token) ∧
    ∀ raw c, parse? raw = some c → parse? c.raw = some c := by
  constructor
  · intro token hne hplain
    have hread := (parse?_eq_some_iff (.plain hplain)).mpr ⟨hne, rfl⟩
    have hnegated := (parse?_eq_some_iff (splits_negationMark token)).mpr ⟨hne, rfl⟩
    refine ⟨_, _, hread, hnegated, ?_, ?_, ?_⟩
    · rfl
    · exact holds_eq_not rfl rfl rfl
    · intro name hname
      dsimp only at hname
      exact Predicate.eq_of_parse_eq_flag hname
  · intro raw c hc
    obtain ⟨negated, body, hsplits⟩ := exists_splits raw
    obtain ⟨hne, hraw⟩ := (parse?_eq_some_iff hsplits).mp hc
    rw [hraw, parse?_trim, ← hraw, hc]

theorem legacy_token_is_negated :
    trim " legacy = 1" ≠ "" ∧ (∀ rest, trim " legacy = 1" ≠ negationMark ++ rest) ∧
      ∃ negation, parse? "! legacy = 1" = some negation ∧ negation.predicate = .flag "legacy = 1" := by
  have hne : trim " legacy = 1" ≠ "" := by decide +kernel
  have hplain : ∀ rest, trim " legacy = 1" ≠ negationMark ++ rest := by
    intro rest h
    have hfirst : (trim " legacy = 1").toList.head? = some '!' := by
      rw [h, String.toList_append]
      rfl
    exact absurd hfirst (by decide +kernel)
  refine ⟨hne, hplain, ?_⟩
  obtain ⟨c, negation, hc, hnegation, hsame, -⟩ := negation_exact.1 _ hne hplain
  have hflag : parse? " legacy = 1" = some ⟨false, .flag "legacy = 1", "legacy = 1"⟩ := by
    decide +kernel
  have htoken : negationMark ++ " legacy = 1" = "! legacy = 1" := by decide +kernel
  rw [htoken] at hnegation
  cases hc.symm.trans hflag
  exact ⟨negation, hnegation, hsame⟩

end Condition

end StoryEngine
