import StoryEngine.Json.Reader

/-! # Strings written and read back

Every character is written so that it is read as one piece that stands for it alone, whatever comes
next.
-/

namespace StoryEngine.Json

set_option autoImplicit false

/-- A piece that stands for a character on its own. -/
def Piece.Spells (p : Piece) (c : Char) : Prop :=
  ∀ pieces, joinPieces (p :: pieces) = (joinPieces pieces).map (c :: ·)

theorem spells_char (c : Char) : Piece.Spells (.char c) c := fun _ => by rw [joinPieces]

theorem spells_unit {c : Char} (h : c.toNat < 32) : Piece.Spells (.unit c.toNat) c := by
  have hhigh : isHighSurrogate c.toNat = false := by
    simp only [isHighSurrogate, Bool.and_eq_false_iff, decide_eq_false_iff_not]
    omega
  have hlow : isLowSurrogate c.toNat = false := by
    simp only [isLowSurrogate, Bool.and_eq_false_iff, decide_eq_false_iff_not]
    omega
  intro pieces
  rcases pieces with _ | ⟨_ | _, _⟩ <;> simp [joinPieces, hhigh, hlow, Char.ofNat_toNat]

theorem hexNumber?_of_control :
    ∀ n < 32, hexNumber? '0' '0' (hexChar (n / 16)) (hexChar (n % 16)) = some n := by
  decide

/-- The text is read as one piece that stands for the character. -/
def Denotes (source : List Char) (c : Char) : Prop :=
  ∃ p : Piece, p.Spells c ∧ ∀ rest,
    takePieces (source ++ rest) = (takePieces rest).map fun (pieces, rest) => (p :: pieces, rest)

theorem denotes_short {e c : Char} (h : unescape? e = some c) : Denotes ['\\', e] c := by
  refine ⟨.char c, spells_char c, fun rest => ?_⟩
  rw [List.cons_append, List.singleton_append, takePieces]
  · rw [h]
    cases takePieces rest <;> rfl
  · rintro _ _ _ _ _ rfl
    cases h

theorem denotes_control {c : Char} (h : c.toNat < 32) :
    Denotes ['\\', 'u', '0', '0', hexChar (c.toNat / 16), hexChar (c.toNat % 16)] c := by
  refine ⟨.unit c.toNat, spells_unit h, fun rest => ?_⟩
  change takePieces ('\\' :: 'u' :: '0' :: '0' :: _ :: _ :: rest) = _
  rw [takePieces, hexNumber?_of_control c.toNat h]
  cases takePieces rest <;> rfl

theorem denotes_plain {c : Char} (hquote : c ≠ quoteMark) (hescape : c ≠ escapeMark)
    (h : ¬c.toNat < 32) : Denotes [c] c := by
  refine ⟨.char c, spells_char c, fun rest => ?_⟩
  have hplain : ¬(c.toNat < 32 ∨ c = escapeMark) := not_or.mpr ⟨h, hescape⟩
  rw [List.singleton_append, takePieces]
  · rw [if_neg hplain]
    cases takePieces rest <;> rfl
  · exact hquote
  · exact fun _ _ _ _ _ hc => absurd hc hescape
  · exact fun _ _ hc => absurd hc hescape

theorem denotes_escape (c : Char) : Denotes (escape c) c := by
  unfold escape
  split
  · next h => exact h ▸ denotes_short (e := '"') rfl
  split
  · next h => exact h ▸ denotes_short (e := '\\') rfl
  split
  · next h => exact denotes_short (h ▸ rfl)
  split
  · next h => exact denotes_short (h ▸ rfl)
  split
  · next h => exact denotes_short (h ▸ rfl)
  split
  · next h => exact denotes_short (c.ofNat_toNat ▸ h ▸ rfl)
  split
  · next h => exact denotes_short (c.ofNat_toNat ▸ h ▸ rfl)
  split
  · next h => exact denotes_control h
  · next hquote hescape _ _ _ _ _ h => exact denotes_plain hquote hescape h

theorem takePieces_flatMap_escape (cs rest : List Char) :
    ∃ pieces, takePieces (cs.flatMap escape ++ '"' :: rest) = some (pieces, rest) ∧
      joinPieces pieces = some cs := by
  induction cs with
  | nil => exact ⟨[], rfl, rfl⟩
  | cons c cs ih =>
    obtain ⟨pieces, htake, hjoin⟩ := ih
    obtain ⟨p, hspells, hread⟩ := denotes_escape c
    refine ⟨p :: pieces, ?_, ?_⟩
    · rw [List.flatMap_cons, List.append_assoc, hread, htake]
      rfl
    · rw [hspells, hjoin]
      rfl

/-- Behind the opening quote, what was written of a text is read as that text. -/
theorem takeString_flatMap_escape (s : String) (rest : List Char) :
    takeString (s.toList.flatMap escape ++ '"' :: rest) = some (some s, rest) := by
  obtain ⟨pieces, htake, hjoin⟩ := takePieces_flatMap_escape s.toList rest
  simp only [takeString, htake, Option.map_some, hjoin, String.ofList_toList]

end StoryEngine.Json
