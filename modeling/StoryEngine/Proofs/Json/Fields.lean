import StoryEngine.Json.Decode
import StoryEngine.Proofs.Result

/-! # Records written and read back

A record may leave out fields. What is then read is found by name, and a field that was left out
reads as its value by default.
-/

namespace StoryEngine.Json

set_option autoImplicit false

/-- The members of a record with the given fields, some of which are not written. -/
def written (fields : List (String × Option Json)) : List (String × Json) :=
  fields.filterMap fun f => f.2.map fun v => (f.1, v)

theorem mem_written {fields : List (String × Option Json)} {name : String} {v : Json} :
    (name, v) ∈ written fields ↔ (name, some v) ∈ fields := by
  rw [written, List.mem_filterMap]
  constructor
  · rintro ⟨⟨_, v?⟩, hmem, heq⟩
    obtain ⟨_, rfl, hpair⟩ := Option.map_eq_some_iff.mp heq
    cases hpair
    exact hmem
  · exact fun hmem => ⟨_, hmem, rfl⟩

theorem written_append (fields more : List (String × Option Json)) :
    written (fields ++ more) = written fields ++ written more :=
  List.filterMap_append

variable {fields : List (String × Option Json)}

theorem filter_written_of_not_mem {name : String} (h : name ∉ fields.map (·.1)) :
    (written fields).filter (·.1 == name) = [] := by
  rw [List.filter_eq_nil_iff]
  rintro ⟨_, v⟩ hmem hname
  cases eq_of_beq hname
  exact h (List.mem_map.mpr ⟨_, mem_written.mp hmem, rfl⟩)

theorem filter_written_of_mem (hnames : (fields.map (·.1)).Nodup) {f : String × Option Json}
    (hf : f ∈ fields) : (written fields).filter (·.1 == f.1) = written [f] := by
  obtain ⟨before, behind, rfl⟩ := List.append_of_mem hf
  rw [List.map_append, List.map_cons, List.nodup_append] at hnames
  obtain ⟨_, hbehind, hapart⟩ := hnames
  have hnot : f.1 ∉ before.map (·.1) := fun h => hapart f.1 h f.1 List.mem_cons_self rfl
  have hself : (written [f]).filter (·.1 == f.1) = written [f] := by
    refine List.filter_eq_self.mpr fun m hm => ?_
    cases List.mem_singleton.mp (mem_written.mp hm)
    exact beq_self_eq_true _
  rw [← List.singleton_append, written_append, written_append, List.filter_append,
    List.filter_append, filter_written_of_not_mem hnot, hself,
    filter_written_of_not_mem (List.nodup_cons.mp hbehind).1, List.nil_append, List.append_nil]

/-- Every field is found by its name. -/
theorem member?_written (hnames : (fields.map (·.1)).Nodup) {f : String × Option Json}
    (hf : f ∈ fields) : member? (written fields) f.1 = some f.2 := by
  rw [member?, filter_written_of_mem hnames hf]
  obtain ⟨_, _ | _⟩ := f <;> rfl

theorem mapM_member?_written (hnames : (fields.map (·.1)).Nodup)
    {wanted : List (String × Option Json)} (hwanted : ∀ f ∈ wanted, f ∈ fields) :
    (wanted.map (·.1)).mapM (member? (written fields)) = some (wanted.map (·.2)) := by
  rw [List.mapM_map]
  exact mapM_eq_some_of_forall fun f hf => member?_written hnames (hwanted f hf)

theorem record?_written (hnames : (fields.map (·.1)).Nodup) :
    record? (fields.map (·.1)) (.object (written fields)) = some (fields.map (·.2)) :=
  mapM_member?_written hnames fun _ hf => hf

section

variable {α : Type} {value : Json → Option α} {toJson : α → Json}

/-- A field that is not written where it has its value by default reads as it was. -/
theorem withDefault_unless {absent a : α} {skip : Bool} {v : Json}
    (habsent : skip = true → a = absent) (hread : value v = some a) :
    withDefault value absent (if skip then none else some v) = some a := by
  cases skip with
  | true => exact congrArg some (habsent rfl).symm
  | false => exact hread

theorem natBelow?_number {bound n : Nat} (h : n < bound) : natBelow? bound (.number n) = some n :=
  if_pos ⟨Int.natCast_nonneg n, Int.ofNat_lt.mpr h⟩

theorem list?_array {list : List α} (h : ∀ a ∈ list, value (toJson a) = some a) :
    list? value (.array (list.map toJson)) = some list :=
  mapM_map_eq_some h

theorem map?_object {m : StringMap α} (h : ∀ e ∈ m.toList, value (toJson e.2) = some e.2) :
    map? value (.object (m.toList.map fun e => (e.1, toJson e.2))) = some m := by
  have hread : (m.toList.map fun e => (e.1, toJson e.2)).mapM
      (fun e => (value e.2).map fun v => (e.1, v)) = some m.toList := by
    refine mapM_map_eq_some fun e he => ?_
    rw [h e he]
    rfl
  rw [map?, hread, Option.map_some, StringMap.ofList_toList]

theorem set?_array (s : StringSet) : set? (.array (s.keys.map Json.string)) = some s := by
  have hkeys : list? text? (.array (s.keys.map Json.string)) = some s.keys :=
    list?_array fun _ _ => rfl
  rw [set?, hkeys, Option.map_some, StringSet.ofKeys_keys]

end

/-- A field of a record, found by its name in an object and by its place in an array. -/
def field? (name : String) (place : Nat) : Json → Option Json
  | object members => (members.find? (·.1 == name)).map (·.2)
  | array elements => elements[place]?
  | _ => none

theorem member?_eq_some {members : List (String × Json)} {name : String} {found : Option Json}
    (h : member? members name = some found) :
    found = (members.find? (·.1 == name)).map (·.2) := by
  unfold member? at h
  rw [← List.head?_filter]
  split at h
  · next hnone =>
    cases h
    rw [hnone]
    rfl
  · next hone =>
    cases h
    rw [hone]
    rfl
  · cases h

/-- What a record was read into are its fields, each in its place. -/
theorem getElem?_of_record? {names : List String} {v : Json} {fields : List (Option Json)}
    (h : v.record? names = some fields) {place : Nat} {name : String}
    (hname : names[place]? = some name) : fields[place]? = some (v.field? name place) := by
  cases v with
  | object members =>
    obtain ⟨found, hfound, hfield⟩ := getElem?_of_mapM_eq_some h hname
    rw [hfield, member?_eq_some hfound]
    rfl
  | array elements =>
    rw [record?] at h
    split at h
    · cases h
      have hplace : place < names.length := (List.getElem?_eq_some_iff.mp hname).1
      rw [field?, List.getElem?_append, List.length_map, List.getElem?_map, List.getElem?_replicate]
      by_cases hpresent : place < elements.length
      · simp [hpresent]
      · have hrest : place - elements.length < names.length - elements.length := by omega
        rw [if_neg hpresent, if_pos hrest, List.getElem?_eq_none (Nat.le_of_not_lt hpresent)]
    · cases h
  | null | bool | number | string | foreign => cases h

/-- A map is read from the members of an object, each of which has to read. -/
theorem exists_of_map? {α : Type} {value : Json → Option α} {v : Json} {m : StringMap α}
    (h : map? value v = some m) (absent : α) :
    ∃ members, v = .object members ∧ (∀ e ∈ members, (value e.2).isSome = true) ∧
      m = .ofList (members.map fun e => (e.1, (value e.2).getD absent)) := by
  cases v with
  | object members =>
    obtain ⟨entries, hentries, rfl⟩ := Option.map_eq_some_iff.mp h
    have hread : ∀ e ∈ members, (value e.2).isSome = true := by
      intro e he
      obtain ⟨entry, hentry⟩ := exists_of_mapM_eq_some hentries he
      rw [Option.isSome_iff_exists]
      exact ⟨entry.2, by obtain ⟨_, ha, rfl⟩ := Option.map_eq_some_iff.mp hentry; exact ha⟩
    refine ⟨members, rfl, hread, ?_⟩
    have hall : members.mapM (fun e => (value e.2).map fun a => (e.1, a)) =
        some (members.map fun e => (e.1, (value e.2).getD absent)) := by
      refine mapM_eq_some_of_forall fun e he => ?_
      obtain ⟨a, ha⟩ := Option.isSome_iff_exists.mp (hread e he)
      rw [ha]
      rfl
    rw [Option.some.inj (hentries.symm.trans hall)]
  | null | bool | number | string | array | foreign => cases h

end StoryEngine.Json
