import StoryEngine.Proofs.Text.Pieces

/-! # Joined texts

Two texts with a mark between them are cut at this mark, and each of them as it is cut alone. Only
a text that ends in the beginning of the mark is cut too early. Blanks around a list make no
difference to what it lists.
-/

namespace StoryEngine

set_option autoImplicit false

namespace Text

/-- What holds of no character of a given text is found by trying them one by one. -/
theorem forall_mem_of_all_not {kind : Char → Bool} {s : List Char}
    (h : s.all (fun c => !kind c) = true) : ∀ c ∈ s, kind c = false := by
  simpa using h

/-- A text ends apart from a mark if no beginning of the mark stands at its end, so that what is put
behind the text cannot complete one. -/
def EndsApart (sep s : List Char) : Prop :=
  ∀ start, start <+: sep → start <:+ s → start = [] ∨ start = sep

section

variable {sep a s : List Char} {c : Char}

theorem EndsApart.of_suffix (h : EndsApart sep s) (ha : a <:+ s) : EndsApart sep a :=
  fun start hsep hstart => h start hsep (hstart.trans ha)

theorem endsApart_singleton (c : Char) (s : List Char) : EndsApart [c] s := by
  intro start hsep _
  rcases start with _ | ⟨d, start⟩
  · exact .inl rfl
  · obtain ⟨rfl, hrest⟩ := List.cons_prefix_cons.mp hsep
    rw [List.prefix_nil.mp hrest]
    exact .inr rfl

theorem endsApart_double (h : s.getLast? ≠ some c) : EndsApart [c, c] s := by
  intro start hsep hstart
  rcases start with _ | ⟨d, start⟩
  · exact .inl rfl
  · obtain ⟨rfl, hrest⟩ := List.cons_prefix_cons.mp hsep
    rcases start with _ | ⟨e, start⟩
    · obtain ⟨front, rfl⟩ := hstart
      exact absurd List.getLast?_concat h
    · obtain ⟨rfl, hnone⟩ := List.cons_prefix_cons.mp hrest
      rw [List.prefix_nil.mp hnone]
      exact .inr rfl

theorem afterStart?_append {rest : List Char} (h : afterStart? sep a = some rest)
    (b : List Char) : afterStart? sep (a ++ b) = some (rest ++ b) := by
  rw [afterStart?_eq_some_iff] at h ⊢
  rw [← h, List.append_assoc]

/-- A mark that is not met at the start of a text is not met there with the mark behind the text. -/
theorem EndsApart.afterStart?_join (h : EndsApart sep a) (hne : a ≠ [])
    (hnone : afterStart? sep a = none) (b : List Char) :
    afterStart? sep (a ++ (sep ++ b)) = none := by
  rw [afterStart?_eq_none_iff] at hnone ⊢
  intro hsep
  rcases List.prefix_or_prefix_of_prefix hsep (List.prefix_append a (sep ++ b)) with hin | hover
  · exact hnone hin
  · rcases h a hover List.suffix_rfl with hempty | hwhole
    · exact hne hempty
    · exact hnone (hwhole ▸ List.prefix_rfl)

/-- The first cut of a joined text is the first cut of its first part or, where there is none, lies
between the parts. -/
theorem cutFirst_join (hsep : sep ≠ []) (h : EndsApart sep a) (b : List Char) :
    cutFirst sep (a ++ (sep ++ b)) =
      match cutFirst sep a with
      | some (front, rest) => some (front, rest ++ (sep ++ b))
      | none => some (a, b) := by
  induction a with
  | nil =>
    obtain ⟨d, ds, rfl⟩ := List.exists_cons_of_ne_nil hsep
    have hstart : afterStart? (d :: ds) (d :: (ds ++ b)) = some b :=
      (afterStart?_eq_some_iff _ _ _).mpr rfl
    have hcut : cutFirst (d :: ds) (d :: (ds ++ b)) = some ([], b) := by rw [cutFirst, hstart]
    exact hcut
  | cons c a ih =>
    rw [List.cons_append, cutFirst, cutFirst]
    cases hstart : afterStart? sep (c :: a) with
    | some rest =>
      have hjoined := afterStart?_append hstart (sep ++ b)
      rw [List.cons_append] at hjoined
      rw [hjoined]
    | none =>
      have hjoined := h.afterStart?_join (List.cons_ne_nil c a) hstart b
      rw [List.cons_append] at hjoined
      rw [hjoined]
      dsimp only
      rw [ih (h.of_suffix (List.suffix_cons c a))]
      cases cutFirst sep a with
      | none => rfl
      | some parts => rfl

theorem suffix_of_cutFirst {front rest : List Char} (h : cutFirst sep s = some (front, rest)) :
    rest <:+ s :=
  ⟨front ++ sep, append_of_cutFirst _ _ _ _ h⟩

theorem cutAll_join (hsep : sep ≠ []) (h : EndsApart sep a) (b : List Char) :
    cutAll sep (a ++ (sep ++ b)) = cutAll sep a ++ cutAll sep b := by
  induction hn : a.length using Nat.strongRecOn generalizing a with
  | ind n ih =>
  rw [cutAll_eq hsep (a ++ (sep ++ b)), cutFirst_join hsep h, cutAll_eq hsep a]
  cases hcut : cutFirst sep a with
  | none => rfl
  | some parts =>
    obtain ⟨front, rest⟩ := parts
    have hrest := h.of_suffix (suffix_of_cutFirst hcut)
    have hless := length_lt_of_cutFirst hsep hcut
    dsimp only
    rw [ih rest.length (hn ▸ hless) hrest rfl, List.cons_append]

end

section

variable {sep : List Char} (hsep : sep ≠ []) (hplain : ∀ c ∈ sep, isBlank c = false)

include hsep hplain

theorem cutAll_cons_of_blank {c : Char} (hc : isBlank c = true) (s : List Char) :
    cutAll sep (c :: s) = consFirst c (cutAll sep s) := by
  obtain ⟨d, ds, rfl⟩ := List.exists_cons_of_ne_nil hsep
  have hne : d ≠ c := by
    rintro rfl
    rw [hplain d List.mem_cons_self] at hc
    cases hc
  rw [cutAll, cutAllFrom, if_neg (by simp [hne])]
  rfl

omit hsep in
/-- No part of a mark lies in blanks that stand behind a text. -/
theorem prefix_append_blanks_iff {s blanks : List Char} (hblanks : ∀ c ∈ blanks, isBlank c = true) :
    sep <+: s ++ blanks ↔ sep <+: s := by
  refine ⟨fun h => ?_, fun h => h.trans (List.prefix_append s blanks)⟩
  rcases List.prefix_or_prefix_of_prefix h (List.prefix_append s blanks) with hin | ⟨more, hmore⟩
  · exact hin
  · rcases more with _ | ⟨c, more⟩
    · have hsep : sep = s := hmore.symm.trans (List.append_nil s)
      exact hsep ▸ List.prefix_rfl
    · have hc : c ∈ blanks := by
        rw [← hmore, List.prefix_append_right_inj] at h
        exact h.subset List.mem_cons_self
      have hmem : c ∈ sep := hmore ▸ List.mem_append_right s List.mem_cons_self
      have hblank := hblanks c hc
      rw [hplain c hmem] at hblank
      cases hblank

theorem cutFirst_append_blanks {blanks : List Char} (hblanks : ∀ c ∈ blanks, isBlank c = true)
    (s : List Char) :
    cutFirst sep (s ++ blanks) =
      (cutFirst sep s).map fun parts => (parts.1, parts.2 ++ blanks) := by
  induction s with
  | nil =>
    rw [List.nil_append, cutFirst, Option.map_none, cutFirst_eq_none_iff hsep]
    rintro ⟨front, rest, h⟩
    obtain ⟨d, ds, rfl⟩ := List.exists_cons_of_ne_nil hsep
    have hblank := hblanks d (by simp [← h])
    rw [hplain d List.mem_cons_self] at hblank
    cases hblank
  | cons c s ih =>
    rw [List.cons_append, cutFirst, cutFirst]
    cases hstart : afterStart? sep (c :: s) with
    | some rest =>
      have hlonger := afterStart?_append hstart blanks
      rw [List.cons_append] at hlonger
      rw [hlonger]
      rfl
    | none =>
      have hlonger : afterStart? sep (c :: (s ++ blanks)) = none := by
        rw [afterStart?_eq_none_iff, ← List.cons_append,
          prefix_append_blanks_iff hplain hblanks]
        exact afterStart?_eq_none_iff.mp hstart
      rw [hlonger]
      dsimp only
      rw [ih]
      cases cutFirst sep s <;> rfl

theorem map_trim_cutAll_append {blanks : List Char} (hblanks : ∀ c ∈ blanks, isBlank c = true)
    (s : List Char) :
    (cutAll sep (s ++ blanks)).map trimChars = (cutAll sep s).map trimChars := by
  induction hn : s.length using Nat.strongRecOn generalizing s with
  | ind n ih =>
  rw [cutAll_eq hsep (s ++ blanks), cutFirst_append_blanks hsep hplain hblanks, cutAll_eq hsep s]
  cases hcut : cutFirst sep s with
  | none => exact congrArg ([·]) (trimChars_append_of_blank hblanks)
  | some parts =>
    have hless := length_lt_of_cutFirst hsep hcut
    exact congrArg (trimChars parts.1 :: ·) (ih parts.2.length (hn ▸ hless) parts.2 rfl)

theorem map_trim_cutAll_dropWhile (s : List Char) :
    (cutAll sep (s.dropWhile isBlank)).map trimChars = (cutAll sep s).map trimChars := by
  induction s with
  | nil => rfl
  | cons c s ih =>
    rw [List.dropWhile_cons]
    split
    · next hc =>
      rw [ih, cutAll_cons_of_blank hsep hplain hc]
      obtain ⟨piece, pieces, hpieces⟩ := List.exists_cons_of_ne_nil (cutAll_ne_nil hsep s)
      have hpiece : trimChars (c :: piece) = trimChars piece := by
        rw [trimChars, List.dropWhile_cons, hc]
        rfl
      rw [hpieces, consFirst, List.map_cons, List.map_cons, hpiece]
    · rfl

theorem map_trim_cutAll_trimChars (s : List Char) :
    (cutAll sep (trimChars s)).map trimChars = (cutAll sep s).map trimChars := by
  have hblanks : ∀ c ∈ (s.dropWhile isBlank).rtakeWhile isBlank, isBlank c = true :=
    fun c hc => List.mem_rtakeWhile_imp hc
  rw [trimChars_eq, ← map_trim_cutAll_append hsep hplain hblanks,
    List.rdropWhile_append_rtakeWhile, map_trim_cutAll_dropWhile hsep hplain]

end

/-- Blanks around a list make no difference to its trimmed parts. -/
theorem map_trim_splitAll_trim {sep : String} (hsep : sep ≠ "")
    (hplain : ∀ c ∈ sep.toList, isBlank c = false) (s : String) :
    (splitAll sep (trim s)).map trim = (splitAll sep s).map trim := by
  have hne : sep.toList ≠ [] := String.toList_eq_nil_iff.not.mpr hsep
  have hpieces (s : String) : (splitAll sep s).map trim =
      ((cutAll sep.toList s.toList).map trimChars).map String.ofList := by
    rw [splitAll, List.map_map, List.map_map]
    refine List.map_congr_left fun piece _ => ?_
    simp [trim]
  rw [hpieces, hpieces, toList_trim, map_trim_cutAll_trimChars hne hplain]

end Text

namespace Script

open Text (trim)

theorem splitList_join {sep a : String} (hsep : sep ≠ "")
    (h : Text.EndsApart sep.toList a.toList) (b : String) :
    splitList sep (a ++ sep ++ b) = splitList sep a ++ splitList sep b := by
  have hne : sep.toList ≠ [] := String.toList_eq_nil_iff.not.mpr hsep
  have hjoined : (a ++ sep ++ b).toList = a.toList ++ (sep.toList ++ b.toList) := by simp
  rw [splitList, Text.splitAll, hjoined, Text.cutAll_join hne h, List.map_append, List.map_append,
    List.filter_append]
  rfl

theorem splitList_trim {sep : String} (hsep : sep ≠ "")
    (hplain : ∀ c ∈ sep.toList, Text.isBlank c = false) (s : String) :
    splitList sep (trim s) = splitList sep s := by
  rw [splitList, splitList, Text.map_trim_splitAll_trim hsep hplain]

end Script

end StoryEngine
