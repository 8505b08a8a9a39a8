import StoryEngine.Content.Listing
import StoryEngine.Proofs.Storage.Lookup

/-! # Listings of content files

A listing has the names that lead to files of its kind. Files of two kinds may be listed for each
kind apart or for both at once.
-/

namespace StoryEngine.Files

set_option autoImplicit false

theorem hasExtension_cons (extension : String) (extensions : List String) (name : String) :
    hasExtension (extension :: extensions) name =
      (hasExtension [extension] name || hasExtension extensions name) := by
  unfold hasExtension
  cases Path.extension? name with
  | none => rfl
  | some found =>
    simp only [List.contains_cons, List.contains_nil, Bool.or_false]

theorem not_hasExtension_both {first second : String} (h : first ≠ second) (name : String)
    (hfirst : hasExtension [first] name = true) : hasExtension [second] name = false := by
  unfold hasExtension at *
  cases hfound : Path.extension? name with
  | none => rfl
  | some found =>
    simp only [hfound, List.contains_cons, List.contains_nil, Bool.or_false, beq_iff_eq] at *
    rw [hfirst, beq_eq_false_iff_ne]
    exact h

theorem namesWith_eq_ok_iff {files : Files} {extensions names : List String} {directory : String} :
    files.namesWith extensions directory = .ok names ↔ ∃ found, files.list directory = .ok found ∧
      (found.filter fun name e => e ≠ .directory ∧ hasExtension extensions name).keys = names := by
  rw [namesWith, bind_eq_ok_iff]
  exact exists_congr fun found => and_congr_right fun _ => ⟨Except.ok.inj, congrArg Except.ok⟩

theorem mem_keys_isFile_iff {extensions : List String} {found : StringMap FileEntry}
    {name : String} :
    name ∈ (found.filter fun name e => e ≠ .directory ∧ hasExtension extensions name).keys ↔
      (∃ entry, found.get? name = some entry ∧ entry ≠ .directory) ∧
        hasExtension extensions name = true := by
  rw [← StringMap.contains_iff_mem_keys, StringMap.contains, Option.isSome_iff_exists,
    ← exists_and_right]
  refine exists_congr fun entry => ?_
  rw [StringMap.get?_filter, Option.filter_eq_some_iff, decide_eq_true_eq, and_assoc]

section

variable {files : Files} {extensions names : List String} {directory name : String}
  (h : files.namesWith extensions directory = .ok names)

include h

theorem hasExtension_of_mem_namesWith (hname : name ∈ names) :
    hasExtension extensions name = true := by
  obtain ⟨found, -, rfl⟩ := namesWith_eq_ok_iff.mp h
  exact (mem_keys_isFile_iff.mp hname).2

theorem plain_of_mem_namesWith (hfiles : files.WellFormed) (hname : name ∈ names) :
    Path.Plain name := by
  obtain ⟨found, hlist, rfl⟩ := namesWith_eq_ok_iff.mp h
  obtain ⟨⟨entry, hentry, -⟩, -⟩ := mem_keys_isFile_iff.mp hname
  exact plain_of_list hfiles hlist hentry

theorem mem_namesWith_iff (hfiles : files.WellFormed) (hname : Path.Proper name) :
    name ∈ names ↔ files.isFile (Path.join directory name) = true ∧
      hasExtension extensions name = true := by
  obtain ⟨found, hlist, rfl⟩ := namesWith_eq_ok_iff.mp h
  rw [mem_keys_isFile_iff, isFile_iff]
  exact and_congr_left fun _ => exists_congr fun entry => and_congr_left fun _ =>
    (entry_join_eq_ok_iff hfiles hlist hname).symm

end

/-- What two tests let through, one of which holds at most, is what each lets through. -/
theorem filter_append_filter_perm {α : Type} {p q : α → Bool}
    (h : ∀ a, p a = true → q a = false) (list : List α) :
    (list.filter p ++ list.filter q).Perm (list.filter fun a => p a || q a) := by
  have hfirst : (list.filter fun a => p a || q a).filter p = list.filter p := by
    rw [List.filter_filter]
    exact List.filter_congr fun a _ => by cases p a <;> rfl
  have hsecond : (list.filter fun a => p a || q a).filter (fun a => !p a) = list.filter q := by
    rw [List.filter_filter]
    refine List.filter_congr fun a _ => ?_
    cases hp : p a with
    | false => rfl
    | true => exact (h a hp).symm
  have hall := List.filter_append_perm p (list.filter fun a => p a || q a)
  rwa [hfirst, hsecond] at hall

theorem keys_filter_append_perm {α : Type} (m : StringMap α) {p q : String → α → Bool}
    (h : ∀ k a, p k a = true → q k a = false) :
    ((m.filter p).keys ++ (m.filter q).keys).Perm (m.filter fun k a => p k a || q k a).keys := by
  simp only [StringMap.keys, StringMap.filter, ← List.map_append]
  exact (filter_append_filter_perm (fun e => h e.1 e.2) m.entries).map Prod.fst

/-- Listing twice gives the same names as listing once for both extensions. -/
theorem namesWithEither_eq (files : Files) {first second : String} (h : first ≠ second)
    (directory : String) :
    files.namesWithEither first second directory = files.namesWith [first, second] directory := by
  unfold namesWithEither namesWith
  cases files.list directory with
  | error fault => rfl
  | ok children =>
    refine congrArg Except.ok ?_
    let isFile := fun extensions name (e : FileEntry) =>
      decide (e ≠ .directory ∧ hasExtension extensions name = true)
    have hapart : ∀ name e, isFile [first] name e = true → isFile [second] name e = false := by
      intro name e hfile
      have hextension := (of_decide_eq_true hfile).2
      simp only [isFile, not_hasExtension_both h name hextension, Bool.false_eq_true, and_false,
        decide_false]
    have heither : (fun name e => isFile [first] name e || isFile [second] name e) =
        isFile [first, second] := by
      funext name e
      simp only [isFile, hasExtension_cons first [second], Bool.or_eq_true, and_or_left,
        Bool.decide_or]
    have hperm := keys_filter_append_perm children hapart
    rw [heither] at hperm
    refine List.Perm.eq_of_pairwise (fun _ _ _ _ => String.le_antisymm) ?_ ?_
      ((List.mergeSort_perm _ _).trans hperm)
    · refine (List.pairwise_mergeSort (fun a b c hab hbc => ?_) (fun a b => ?_) _).imp
        of_decide_eq_true
      · exact decide_eq_true (String.le_trans (of_decide_eq_true hab) (of_decide_eq_true hbc))
      · simpa only [Bool.or_eq_true, decide_eq_true_eq] using String.le_total a b
    · exact (StringMap.keys_sorted _).imp fun hlt => String.not_lt.mp (String.lt_asymm hlt)

end StoryEngine.Files
