import StoryEngine.Proofs.Text.Pieces
import StoryEngine.Storage.Path

/-! # The names of a path

A name that has no slash in it is one name of every path that it is put at the end of. A file name
with an extension is its stem, a point and the extension.
-/

namespace StoryEngine

set_option autoImplicit false

namespace Text

theorem asciiLower_append (a b : String) :
    asciiLower (a ++ b) = asciiLower a ++ asciiLower b := by
  simp [← String.toList_inj]

theorem toLower_ne_slash {c : Char} (h : c ≠ '/') : c.toLower ≠ '/' := by
  unfold Char.toLower
  split
  · next hc =>
    intro heq
    have hfirst : 65 ≤ c.val.toNat := UInt32.le_iff_toNat_le.mp hc.1
    have hlast : c.val.toNat ≤ 90 := UInt32.le_iff_toNat_le.mp hc.2
    have hmoved : (c.val.toNat + 32) % 2 ^ 32 = 47 := congrArg Char.toNat heq
    omega
  · exact h

end Text

namespace Path

def Plain (name : String) : Prop := '/' ∉ name.toList

instance (name : String) : Decidable (Plain name) := inferInstanceAs (Decidable (_ ∉ _))

/-- A name that leads one step down. -/
structure Proper (name : String) : Prop where
  plain : Plain name
  notHere : name ∉ ["", ".", ".."]

theorem plain_append {a b : String} : Plain (a ++ b) ↔ Plain a ∧ Plain b := by
  rw [Plain, Plain, Plain, String.toList_append, List.mem_append, not_or]

theorem Plain.asciiLower {name : String} (h : Plain name) : Plain (Text.asciiLower name) := by
  rw [Plain, Text.toList_asciiLower]
  intro hmem
  obtain ⟨c, hc, hlower⟩ := List.mem_map.mp hmem
  exact Text.toLower_ne_slash (fun heq => h (heq ▸ hc)) hlower

theorem names_eq (path : String) : names path = (path.toList.splitOn '/').map String.ofList :=
  congrArg (List.map String.ofList) (Text.cutAll_singleton '/' path.toList)

theorem names_of_plain {name : String} (h : Plain name) : names name = [name] := by
  rw [names_eq, List.splitOn_eq_singleton h]
  exact congrArg (fun name => [name]) String.ofList_toList

theorem plain_of_mem_names {path name : String} (h : name ∈ names path) : Plain name := by
  rw [names_eq] at h
  obtain ⟨piece, hpiece, rfl⟩ := List.mem_map.mp h
  rw [Plain, String.toList_ofList]
  exact Text.not_mem_of_mem_splitOn hpiece

theorem names_append_slash (directory name : String) :
    names (directory ++ "/" ++ name) = names directory ++ names name := by
  have hcut : (directory ++ "/" ++ name).toList = directory.toList ++ '/' :: name.toList := by
    simp
  rw [names_eq, names_eq, names_eq, hcut, List.splitOn_append_cons_self, List.map_append]

theorem names_ne_nil (path : String) : names path ≠ [] := by
  rw [names_eq]
  exact fun h => List.splitOn_ne_nil _ _ (List.map_eq_nil_iff.mp h)

theorem isAbsolute_of_plain {name : String} (h : Plain name) : isAbsolute name = false :=
  Bool.eq_false_iff.mpr fun habsolute => h (List.mem_of_head? (beq_iff_eq.mp habsolute))

/-- A slash at the end of the directory does not count. -/
theorem names_join {directory name : String} (hdirectory : directory ≠ "") (hname : Plain name) :
    names (join directory name) = names directory ++ [name] ∨
      ∃ above, names directory = names above ++ [""] ∧
        names (join directory name) = names above ++ [name] := by
  unfold join
  rw [if_neg (by rw [isAbsolute_of_plain hname]; exact Bool.false_ne_true)]
  split
  · next hend =>
    refine .inr ?_
    obtain ⟨above, habove⟩ := List.getLast?_eq_some_iff.mp (hend.resolve_left hdirectory)
    refine ⟨.ofList above, ?_, ?_⟩
    · have hslash : directory = String.ofList above ++ "/" ++ "" := by
        rw [← String.toList_inj]; simp [habove]
      rw [hslash, names_append_slash]
      rfl
    · have hslash : directory ++ name = String.ofList above ++ "/" ++ name := by
        rw [← String.toList_inj]; simp [habove]
      rw [hslash, names_append_slash, names_of_plain hname]
  · rw [names_append_slash, names_of_plain hname]
    exact .inl rfl

theorem join_ne_empty {directory name : String} (h : Proper name) : join directory name ≠ "" := by
  have hname : name ≠ "" := fun heq => h.notHere (List.mem_cons.mpr (.inl heq))
  unfold join
  split
  · exact hname
  · split <;> simp [String.append_eq_empty_iff, hname]

theorem splitName_append {stem extension : String} (hstem : stem ≠ "")
    (hextension : '.' ∉ extension.toList) :
    splitName (stem ++ "." ++ extension) = (stem, some extension) := by
  have hbackwards : (stem ++ "." ++ extension).toList.reverse =
      extension.toList.reverse ++ '.' :: stem.toList.reverse := by simp
  have hbehind : ∀ c ∈ extension.toList.reverse, decide (c ≠ '.') = true := by
    intro c hc
    exact decide_eq_true fun heq => hextension (heq ▸ List.mem_reverse.mp hc)
  have hrest : stem.toList.reverse ≠ [] := by simpa using hstem
  rw [splitName, hbackwards, List.dropWhile_append_of_pos hbehind,
    List.takeWhile_append_of_pos hbehind, List.dropWhile_cons_of_neg (by simp),
    List.takeWhile_cons_of_neg (by simp), List.drop_one, List.tail_cons, List.append_nil]
  split
  · next h => exact absurd h hrest
  · simp

theorem eq_of_splitName {name stem extension : String}
    (h : splitName name = (stem, some extension)) :
    name = stem ++ "." ++ extension ∧ stem ≠ "" := by
  have hparts := List.takeWhile_append_dropWhile (p := fun c => decide (c ≠ '.'))
    (l := name.toList.reverse)
  have hpoint := List.head?_dropWhile_not (fun c => decide (c ≠ '.')) name.toList.reverse
  unfold splitName at h
  dsimp only at h
  generalize name.toList.reverse.takeWhile (fun c => decide (c ≠ '.')) = behind at *
  cases hbefore : name.toList.reverse.dropWhile (fun c => decide (c ≠ '.')) with
  | nil =>
    rw [hbefore] at h
    cases h
  | cons point before =>
    rw [hbefore] at h hparts hpoint
    obtain rfl : point = '.' := Decidable.not_not.mp (of_decide_eq_false hpoint)
    cases before with
    | nil => cases h
    | cons c before =>
      cases h
      refine ⟨?_, by simp⟩
      rw [← String.toList_inj, ← List.reverse_inj, ← hparts]
      simp

theorem eq_of_extension? {name extension : String} (h : extension? name = some extension) :
    name = stem name ++ "." ++ extension ∧ stem name ≠ "" := eq_of_splitName (Prod.ext rfl h)

theorem proper_of_extension? {name extension : String} (hplain : Plain name)
    (h : extension? name = some extension) (hextension : extension ≠ "") : Proper name := by
  have hdots : ∀ short ∈ ["", ".", ".."], (extension? short).getD "" = "" := by decide
  refine ⟨hplain, fun hmem => hextension ?_⟩
  have hshort := hdots name hmem
  rw [h] at hshort
  exact hshort

end Path

end StoryEngine
