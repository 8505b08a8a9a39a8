import Mathlib.Data.List.Nodup
import StoryEngine.Collection.StringMap

/-! # The latest of several entries

A map that is filled from a list holds, of the entries under one key, the last one. If the keys are
then brought into a form in which some of them become the same, the greatest of these keeps its
place. What a map does not hold in the end is listed here, so that nothing goes missing unnoticed.
-/

namespace StoryEngine.StringMap

set_option autoImplicit false

variable {α : Type} (form : String → String)

/-- The entries with no later one whose key has the same form. -/
def latest : List (String × α) → List (String × α)
  | [] => []
  | entry :: rest =>
    if rest.any fun later => form later.1 == form entry.1 then latest rest
    else entry :: latest rest

/-- The entries with a later one whose key has the same form. -/
def superseded : List (String × α) → List (String × α)
  | [] => []
  | entry :: rest =>
    if rest.any fun later => form later.1 == form entry.1 then entry :: superseded rest
    else superseded rest

/-- Whether a list has an entry with a greater key that has the same form. -/
def isOutranked (entries : List (String × α)) (entry : String × α) : Bool :=
  entries.any fun other => decide (entry.1 < other.1) && form other.1 == form entry.1

def outranked (entries : List (String × α)) : List (String × α) :=
  entries.filter (isOutranked form entries)

/-- The entries that go missing when a map is filled from a list, and another one from this map, in
the order of its keys, under the forms of the keys. -/
def overwritten (entries : List (String × α)) : List (String × α) :=
  superseded id entries ++ outranked form (latest id entries)

variable {entries : List (String × α)}

theorem latest_append_superseded_perm (entries : List (String × α)) :
    (latest form entries ++ superseded form entries).Perm entries := by
  induction entries with
  | nil => exact .refl _
  | cons entry rest ih =>
    rw [latest, superseded]
    split
    · exact List.perm_middle.trans (ih.cons entry)
    · exact ih.cons entry

theorem superseded_eq_nil (h : (entries.map fun e => form e.1).Nodup) :
    superseded form entries = [] := by
  induction entries with
  | nil => rfl
  | cons entry rest ih =>
    obtain ⟨hentry, hrest⟩ := List.nodup_cons.mp h
    rw [superseded, ih hrest, if_neg]
    intro hany
    obtain ⟨later, hlater, hform⟩ := List.any_eq_true.mp hany
    exact hentry (List.mem_map.mpr ⟨later, hlater, beq_iff_eq.mp hform⟩)

/-- In a list that is sorted by its keys the greater ones are the later ones. -/
theorem superseded_of_sorted (h : entries.Pairwise fun a b => a.1 < b.1) :
    superseded form entries = outranked form entries := by
  induction entries with
  | nil => rfl
  | cons entry rest ih =>
    obtain ⟨hfirst, hrest⟩ := List.pairwise_cons.mp h
    have hfollowed : isOutranked form (entry :: rest) entry =
        rest.any fun later => form later.1 == form entry.1 := by
      rw [isOutranked, List.any_cons, decide_eq_false (String.lt_irrefl _), Bool.false_and,
        Bool.false_or, Bool.eq_iff_iff, List.any_eq_true, List.any_eq_true]
      refine exists_congr fun later => and_congr_right fun hlater => ?_
      rw [decide_eq_true (hfirst later hlater), Bool.true_and]
    have hbehind : rest.filter (isOutranked form (entry :: rest)) = outranked form rest := by
      refine List.filter_congr fun later hlater => ?_
      rw [isOutranked, List.any_cons, decide_eq_false (String.lt_asymm (hfirst later hlater)),
        Bool.false_and, Bool.false_or]
      rfl
    rw [superseded, ih hrest, ← hbehind, ← hfollowed, ← List.filter_cons]
    rfl

theorem outranked_perm {other : List (String × α)} (h : entries.Perm other) :
    (outranked form entries).Perm (outranked form other) := by
  have hany : isOutranked form entries = isOutranked form other := funext fun _ => h.any_eq
  rw [outranked, outranked, hany]
  exact h.filter _

theorem put_perm_filter {key : String} (value : α) (h : entries.Pairwise fun a b => a.1 < b.1) :
    (put key value entries).Perm ((key, value) :: entries.filter fun e => e.1 != key) := by
  induction entries with
  | nil => exact .refl _
  | cons entry rest ih =>
    obtain ⟨hfirst, hrest⟩ := List.pairwise_cons.mp h
    rw [put]
    split
    · next hlt =>
      have hself : (entry :: rest).filter (fun e => e.1 != key) = entry :: rest := by
        refine List.filter_eq_self.mpr fun e he => bne_iff_ne.mpr ?_
        rcases List.mem_cons.mp he with rfl | he
        · exact (String.ne_of_lt hlt).symm
        · exact (String.ne_of_lt (String.lt_trans hlt (hfirst e he))).symm
      rw [hself]
    · split
      · next heq =>
        subst heq
        have hself : rest.filter (fun e => e.1 != entry.1) = rest :=
          List.filter_eq_self.mpr fun e he => bne_iff_ne.mpr (String.ne_of_lt (hfirst e he)).symm
        rw [List.filter_cons_of_neg (by simp), hself]
      · next hne =>
        rw [List.filter_cons, if_pos (bne_iff_ne.mpr fun heq => hne heq.symm)]
        exact ((ih hrest).cons entry).trans (.swap _ _ _)

/-- A map that is filled on from a list holds the latest entries of the list, and of its own entries
those whose keys do not come in it. -/
theorem toList_foldl_insert_form_perm (entries : List (String × α)) (m : StringMap α) :
    (entries.foldl (fun m e => m.insert (form e.1) e.2) m).toList.Perm
      ((latest form entries).map (fun e => (form e.1, e.2)) ++
        m.toList.filter fun own => !entries.any fun e => form e.1 == own.1) := by
  induction entries generalizing m with
  | nil => exact .of_eq (List.filter_eq_self.mpr fun _ _ => rfl).symm
  | cons entry rest ih =>
    have hown : ((m.insert (form entry.1) entry.2).toList.filter
        fun own => !rest.any fun e => form e.1 == own.1).Perm
        (((form entry.1, entry.2) :: m.toList.filter fun own => own.1 != form entry.1).filter
          fun own => !rest.any fun e => form e.1 == own.1) :=
      (put_perm_filter entry.2 m.sorted).filter _
    have hrest : ((m.toList.filter fun own => own.1 != form entry.1).filter
        fun own => !rest.any fun e => form e.1 == own.1) =
        m.toList.filter fun own => !(entry :: rest).any fun e => form e.1 == own.1 := by
      rw [List.filter_filter]
      refine List.filter_congr fun own _ => ?_
      rw [List.any_cons, Bool.not_or, Bool.and_comm, bne, Bool.beq_comm]
    rw [List.foldl_cons]
    refine (ih _).trans ((hown.append_left _).trans ?_)
    rw [latest, List.filter_cons, hrest]
    by_cases hlater : (rest.any fun later => form later.1 == form entry.1) = true
    · rw [if_pos hlater, if_neg (by simp [hlater])]
    · rw [if_neg hlater, if_pos (by simpa using hlater)]
      exact List.perm_middle

theorem toList_ofList_form_perm (entries : List (String × α)) :
    (ofList (entries.map fun e => (form e.1, e.2))).toList.Perm
      ((latest form entries).map fun e => (form e.1, e.2)) := by
  rw [ofList, List.foldl_map]
  exact (toList_foldl_insert_form_perm form entries empty).trans (.of_eq (List.append_nil _))

theorem toList_ofList_perm_latest (entries : List (String × α)) :
    (ofList entries).toList.Perm (latest id entries) := by
  simpa using toList_ofList_form_perm id entries

/-- The entries of a list are those that a map holds in the end and the overwritten ones. -/
theorem exists_held (entries : List (String × α)) :
    ∃ held, entries.Perm (held ++ overwritten form entries) ∧
      (ofList ((ofList entries).toList.map fun e => (form e.1, e.2))).toList.Perm
        (held.map fun e => (form e.1, e.2)) := by
  have hspelled := toList_ofList_perm_latest entries
  have houtranked : (superseded form (ofList entries).toList).Perm
      (outranked form (latest id entries)) :=
    superseded_of_sorted form (ofList entries).sorted ▸ outranked_perm form hspelled
  refine ⟨latest form (ofList entries).toList, ?_, toList_ofList_form_perm form _⟩
  calc
    List.Perm entries (latest id entries ++ superseded id entries) :=
      (latest_append_superseded_perm id entries).symm
    List.Perm _ ((ofList entries).toList ++ superseded id entries) :=
      hspelled.symm.append_right _
    List.Perm _ (latest form (ofList entries).toList ++ superseded form (ofList entries).toList ++
        superseded id entries) :=
      (latest_append_superseded_perm form _).symm.append_right _
    List.Perm _ (latest form (ofList entries).toList ++
        (superseded id entries ++ outranked form (latest id entries))) := by
      rw [List.append_assoc]
      exact (List.perm_append_comm.trans (houtranked.append_left _)).append_left _

theorem overwritten_eq_nil_iff :
    overwritten form entries = [] ↔ (entries.map fun e => form e.1).Nodup := by
  constructor
  · intro hnone
    obtain ⟨held, hentries, hstored⟩ := exists_held form entries
    rw [hnone, List.append_nil] at hentries
    have hkeys : (held.map fun e => form e.1).Nodup := by
      have hperm := hstored.map Prod.fst
      rw [List.map_map] at hperm
      exact hperm.nodup_iff.mp (keys_nodup _)
    exact (hentries.map fun e => form e.1).nodup_iff.mpr hkeys
  · intro hforms
    have hkeys : (entries.map fun e => id e.1).Nodup := by
      refine List.Nodup.of_map form ?_
      rwa [List.map_map]
    have hlatest : (latest id entries).Perm entries := by
      have hperm := latest_append_superseded_perm id entries
      rwa [superseded_eq_nil id hkeys, List.append_nil] at hperm
    rw [overwritten, superseded_eq_nil id hkeys, List.nil_append, outranked, List.filter_eq_nil_iff]
    intro entry hentry houtranked
    obtain ⟨other, hother, hgreater⟩ := List.any_eq_true.mp houtranked
    rw [Bool.and_eq_true, decide_eq_true_iff, beq_iff_eq] at hgreater
    have hsame : other = entry :=
      List.inj_on_of_nodup_map hforms (hlatest.subset hother) (hlatest.subset hentry) hgreater.2
    exact String.lt_irrefl entry.1 (hsame ▸ hgreater.1)

theorem filter_key_toList (m : StringMap α) (k : String) :
    m.toList.filter (fun e => e.1 == k) = ((m.get? k).map fun value => (k, value)).toList := by
  obtain ⟨entries, hsorted⟩ := m
  change entries.filter (fun e => e.1 == k) =
    ((entries.lookup k).map fun value => (k, value)).toList
  induction entries with
  | nil => rfl
  | cons entry rest ih =>
    obtain ⟨hfirst, hrest⟩ := List.pairwise_cons.mp hsorted
    rw [lookup_cons_ite]
    by_cases hk : k = entry.1
    · subst hk
      have hbehind : rest.filter (fun e => e.1 == entry.1) = [] := by
        refine List.filter_eq_nil_iff.mpr fun e he heq => ?_
        exact String.ne_of_lt (hfirst e he) (beq_iff_eq.mp heq).symm
      rw [List.filter_cons, hbehind]
      simp
    · rw [List.filter_cons, if_neg fun heq => hk (beq_iff_eq.mp heq).symm, if_neg hk, ih hrest]

end StoryEngine.StringMap
