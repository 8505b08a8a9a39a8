/-! # Maps keyed by text

The entries are kept in strictly increasing order of their keys, so that two maps with the same
lookups are equal and every listing comes out in one order.
-/

namespace StoryEngine

set_option autoImplicit false

structure StringMap (α : Type) where
  entries : List (String × α)
  sorted : entries.Pairwise (fun a b => a.1 < b.1)
deriving DecidableEq

namespace StringMap

variable {α β : Type}

def put (key : String) (value : α) : List (String × α) → List (String × α)
  | [] => [(key, value)]
  | entry :: rest =>
    if key < entry.1 then (key, value) :: entry :: rest
    else if key = entry.1 then (key, value) :: rest
    else entry :: put key value rest

theorem mem_put (key : String) (value : α) (entries : List (String × α)) (e : String × α)
    (h : e ∈ put key value entries) : e = (key, value) ∨ e ∈ entries := by
  induction entries with
  | nil => simpa [put] using h
  | cons entry rest ih =>
    rw [put] at h
    split at h
    · simpa using h
    · split at h
      · rcases List.mem_cons.mp h with h | h
        · exact .inl h
        · exact .inr (List.mem_cons_of_mem _ h)
      · rcases List.mem_cons.mp h with h | h
        · exact .inr (h ▸ List.mem_cons_self)
        · exact (ih h).imp_right (List.mem_cons_of_mem _)

theorem sorted_put (key : String) (value : α) (entries : List (String × α))
    (h : entries.Pairwise (fun a b => a.1 < b.1)) :
    (put key value entries).Pairwise (fun a b => a.1 < b.1) := by
  induction entries with
  | nil => simp [put]
  | cons entry rest ih =>
    rw [List.pairwise_cons] at h
    rw [put]
    split
    · next hlt =>
      refine List.pairwise_cons.mpr ⟨fun e he => ?_, List.pairwise_cons.mpr h⟩
      rcases List.mem_cons.mp he with rfl | he
      · exact hlt
      · exact String.lt_trans hlt (h.1 e he)
    · split
      · next heq => exact List.pairwise_cons.mpr ⟨fun e he => heq ▸ h.1 e he, h.2⟩
      · next hnlt hne =>
        refine List.pairwise_cons.mpr ⟨fun e he => ?_, ih h.2⟩
        rcases mem_put key value rest e he with rfl | he
        · have hle : entry.1 ≤ key := String.not_lt.mp hnlt
          by_cases hk : entry.1 < key
          · exact hk
          · exact absurd (String.le_antisymm (String.not_lt.mp hk) hle) hne
        · exact h.1 e he

def empty : StringMap α := ⟨[], List.Pairwise.nil⟩

instance : EmptyCollection (StringMap α) := ⟨empty⟩
instance : Inhabited (StringMap α) := ⟨empty⟩

def get? (m : StringMap α) (key : String) : Option α := m.entries.lookup key

def contains (m : StringMap α) (key : String) : Bool := (m.get? key).isSome

def insert (m : StringMap α) (key : String) (value : α) : StringMap α :=
  ⟨put key value m.entries, sorted_put key value m.entries m.sorted⟩

def filter (m : StringMap α) (keep : String → α → Bool) : StringMap α :=
  ⟨m.entries.filter (fun e => keep e.1 e.2), m.sorted.filter _⟩

def erase (m : StringMap α) (key : String) : StringMap α := m.filter fun k _ => k != key

def map (m : StringMap α) (f : String → α → β) : StringMap β :=
  ⟨m.entries.map (fun e => (e.1, f e.1 e.2)), by
    rw [List.pairwise_map]
    exact m.sorted⟩

/-- Of several values for one key the last one counts. -/
def ofList (entries : List (String × α)) : StringMap α :=
  entries.foldl (fun m e => m.insert e.1 e.2) empty

def toList (m : StringMap α) : List (String × α) := m.entries

def keys (m : StringMap α) : List String := m.entries.map (·.1)

def values (m : StringMap α) : List α := m.entries.map (·.2)

def size (m : StringMap α) : Nat := m.entries.length

def isEmpty (m : StringMap α) : Bool := m.entries.isEmpty

theorem lookup_cons_ite (entry : String × α) (rest : List (String × α)) (k : String) :
    (entry :: rest).lookup k = if k = entry.1 then some entry.2 else rest.lookup k := by
  rw [List.lookup_cons]
  by_cases h : k = entry.1
  · simp [h]
  · have : (k == entry.1) = false := by simpa using h
    simp [this, h]

theorem lookup_put (key k : String) (value : α) (entries : List (String × α)) :
    (put key value entries).lookup k = if k = key then some value else entries.lookup k := by
  induction entries with
  | nil => rw [put, lookup_cons_ite]
  | cons entry rest ih =>
    rw [put]
    split
    · rw [lookup_cons_ite]
    · split
      · next heq =>
        rw [lookup_cons_ite, lookup_cons_ite]
        by_cases h : k = key <;> simp [h, ← heq]
      · next hne =>
        rw [lookup_cons_ite, lookup_cons_ite, ih]
        by_cases h : k = key
        · subst h
          simp [hne]
        · simp [h]

@[simp] theorem get?_empty (k : String) : (empty : StringMap α).get? k = none := rfl

theorem get?_insert (m : StringMap α) (key k : String) (value : α) :
    (m.insert key value).get? k = if k = key then some value else m.get? k :=
  lookup_put key k value m.entries

theorem put_put (key : String) (first value : α) (entries : List (String × α)) :
    put key value (put key first entries) = put key value entries := by
  induction entries with
  | nil => simp [put]
  | cons entry rest ih =>
    rw [put]
    split
    · next hlt => simp [put, hlt]
    · next hnlt =>
      split
      · next heq => simp [put, ← heq]
      · next hne => simp [put, hnlt, hne, ih]

/-- Of two values put under one key the later one stays. -/
theorem insert_insert (m : StringMap α) (key : String) (first value : α) :
    (m.insert key first).insert key value = m.insert key value := by
  simp only [insert, put_put]

theorem lookup_filter_ne (key k : String) (entries : List (String × α)) :
    (entries.filter (fun e => e.1 != key)).lookup k =
      if k = key then none else entries.lookup k := by
  induction entries with
  | nil => simp
  | cons entry rest ih =>
    rw [List.filter_cons, lookup_cons_ite]
    by_cases he : entry.1 = key
    · rw [if_neg (by simp [he]), ih]
      by_cases hk : k = key <;> simp [hk, he]
    · rw [if_pos (by simpa using he), lookup_cons_ite, ih]
      by_cases hk : k = entry.1 <;> simp [hk, he]

theorem get?_erase (m : StringMap α) (key k : String) :
    (m.erase key).get? k = if k = key then none else m.get? k :=
  lookup_filter_ne key k m.entries

theorem ext_toList {m n : StringMap α} (h : m.toList = n.toList) : m = n := by
  cases m
  cases n
  cases h
  rfl

theorem isEmpty_iff {m : StringMap α} : m.isEmpty = true ↔ m = ∅ := by
  rw [isEmpty, List.isEmpty_iff]
  exact ⟨fun h => ext_toList h, fun h => congrArg toList h⟩

theorem get?_eq_some_iff {m : StringMap α} {k : String} {value : α} :
    m.get? k = some value ↔ (k, value) ∈ m.toList := by
  obtain ⟨entries, hsorted⟩ := m
  change entries.lookup k = some value ↔ (k, value) ∈ entries
  induction entries with
  | nil => exact iff_of_false nofun List.not_mem_nil
  | cons entry rest ih =>
    obtain ⟨hfirst, hrest⟩ := List.pairwise_cons.mp hsorted
    rw [lookup_cons_ite, List.mem_cons]
    by_cases hk : k = entry.1
    · have hlater : (k, value) ∉ rest := fun h => String.lt_irrefl _ (hk ▸ hfirst _ h)
      rw [if_pos hk, or_iff_left hlater, Option.some.injEq, Prod.ext_iff, eq_comm, and_iff_right hk]
    · have hne : (k, value) ≠ entry := fun h => hk (congrArg Prod.fst h)
      rw [if_neg hk, or_iff_right hne, ih hrest]

/-- Maps with the same lookups are equal. -/
theorem ext_get? {m n : StringMap α} (h : ∀ k, m.get? k = n.get? k) : m = n := by
  have hnodup (m : StringMap α) : m.toList.Nodup := by
    refine m.sorted.imp fun {a b} hlt heq => ?_
    rw [heq] at hlt
    exact String.lt_irrefl b.1 hlt
  have hperm : m.toList.Perm n.toList := by
    rw [List.perm_ext_iff_of_nodup (hnodup m) (hnodup n)]
    intro e
    rw [← get?_eq_some_iff (k := e.1), ← get?_eq_some_iff (k := e.1), h]
  refine ext_toList (hperm.eq_of_pairwise (fun a b _ _ hlt hgt => ?_) m.sorted n.sorted)
  exact absurd (String.lt_trans hlt hgt) (String.lt_irrefl a.1)

theorem get?_filter (m : StringMap α) (keep : String → α → Bool) (k : String) :
    (m.filter keep).get? k = (m.get? k).filter (keep k) := by
  refine Option.ext fun value => ?_
  rw [get?_eq_some_iff, Option.filter_eq_some_iff, get?_eq_some_iff]
  exact List.mem_filter

theorem get?_map (m : StringMap α) (f : String → α → β) (k : String) :
    (m.map f).get? k = (m.get? k).map (f k) := by
  refine Option.ext fun value => ?_
  rw [get?_eq_some_iff, Option.map_eq_some_iff, toList, map, List.mem_map]
  constructor
  · rintro ⟨⟨_, before⟩, hmem, heq⟩
    cases heq
    exact ⟨before, get?_eq_some_iff.mpr hmem, rfl⟩
  · rintro ⟨before, hbefore, rfl⟩
    exact ⟨(k, before), get?_eq_some_iff.mp hbefore, rfl⟩

theorem filter_eq_self {m : StringMap α} {keep : String → α → Bool}
    (h : ∀ k value, m.get? k = some value → keep k value = true) : m.filter keep = m :=
  ext_toList (List.filter_eq_self.mpr fun e he => h e.1 e.2 (get?_eq_some_iff.mpr he))

theorem filter_eq_empty {m : StringMap α} {keep : String → α → Bool}
    (h : ∀ k value, m.get? k = some value → keep k value = false) : m.filter keep = ∅ :=
  ext_toList (List.filter_eq_nil_iff.mpr fun e he =>
    Bool.not_eq_true _ ▸ h e.1 e.2 (get?_eq_some_iff.mpr he))

theorem map_eq_self {m : StringMap α} {f : String → α → α}
    (h : ∀ k value, m.get? k = some value → f k value = value) : m.map f = m := by
  refine ext_toList ((List.map_congr_left fun e he => ?_).trans (List.map_id m.entries))
  exact Prod.ext rfl (h e.1 e.2 (get?_eq_some_iff.mpr he))

theorem put_of_forall_lt {key : String} {value : α} {entries : List (String × α)}
    (h : ∀ e ∈ entries, e.1 < key) : put key value entries = entries ++ [(key, value)] := by
  induction entries with
  | nil => rfl
  | cons entry rest ih =>
    have hlt := h entry List.mem_cons_self
    have hne : key ≠ entry.1 := fun heq => String.lt_irrefl key (heq ▸ hlt)
    rw [put, if_neg fun hgt => String.lt_irrefl key (String.lt_trans hgt hlt), if_neg hne,
      ih fun e he => h e (List.mem_cons_of_mem entry he), List.cons_append]

theorem toList_foldl_insert (entries : List (String × α)) (m : StringMap α)
    (h : (m.toList ++ entries).Pairwise fun a b => a.1 < b.1) :
    (entries.foldl (fun m e => m.insert e.1 e.2) m).toList = m.toList ++ entries := by
  induction entries generalizing m with
  | nil => exact (List.append_nil _).symm
  | cons entry rest ih =>
    have hbefore : ∀ e ∈ m.toList, e.1 < entry.1 :=
      fun e he => (List.pairwise_append.mp h).2.2 e he entry List.mem_cons_self
    have hinsert : (m.insert entry.1 entry.2).toList = m.toList ++ [entry] :=
      put_of_forall_lt hbefore
    rw [List.foldl_cons, ih _ (by rwa [hinsert, List.append_assoc]), hinsert, List.append_assoc]
    rfl

@[simp] theorem ofList_toList (m : StringMap α) : ofList m.toList = m :=
  ext_toList (toList_foldl_insert m.toList empty m.sorted)

theorem keys_sorted (m : StringMap α) : m.keys.Pairwise (· < ·) := List.pairwise_map.mpr m.sorted

theorem keys_nodup (m : StringMap α) : m.keys.Nodup := by
  refine m.keys_sorted.imp fun {a b} hlt heq => ?_
  rw [heq] at hlt
  exact String.lt_irrefl b hlt

theorem contains_iff_mem_keys {m : StringMap α} {k : String} :
    m.contains k = true ↔ k ∈ m.keys := by
  rw [contains, Option.isSome_iff_exists, keys, List.mem_map]
  constructor
  · rintro ⟨value, h⟩
    exact ⟨(k, value), get?_eq_some_iff.mp h, rfl⟩
  · rintro ⟨⟨_, value⟩, hmem, rfl⟩
    exact ⟨value, get?_eq_some_iff.mpr hmem⟩

theorem contains_insert (m : StringMap α) (key k : String) (value : α) :
    (m.insert key value).contains k = (k == key || m.contains k) := by
  by_cases h : k = key <;> simp [contains, get?_insert, h]

theorem put_perm {key : String} (value : α) {entries : List (String × α)}
    (h : ∀ e ∈ entries, e.1 ≠ key) : (put key value entries).Perm ((key, value) :: entries) := by
  induction entries with
  | nil => exact .refl _
  | cons entry rest ih =>
    rw [put]
    split
    · exact .refl _
    · rw [if_neg (h entry List.mem_cons_self).symm]
      exact ((ih fun e he => h e (List.mem_cons_of_mem entry he)).cons entry).trans (.swap _ _ _)

/-- A value under a new key is one entry more. -/
theorem toList_insert_perm {m : StringMap α} {key : String} (h : m.contains key = false)
    (value : α) : (m.insert key value).toList.Perm ((key, value) :: m.toList) := by
  refine put_perm value fun e he heq => ?_
  have hkey : m.contains key = true := contains_iff_mem_keys.mpr (heq ▸ List.mem_map_of_mem he)
  rw [h] at hkey
  cases hkey

theorem size_insert (m : StringMap α) (key : String) (value : α) :
    (m.insert key value).size = if m.contains key then m.size else m.size + 1 := by
  split
  · next hkey =>
    have hkeys : (m.insert key value).keys.Perm m.keys := by
      rw [List.perm_ext_iff_of_nodup (keys_nodup _) (keys_nodup _)]
      intro k
      rw [← contains_iff_mem_keys, contains_insert, Bool.or_eq_true, beq_iff_eq,
        ← contains_iff_mem_keys]
      exact or_iff_right_of_imp fun heq => heq ▸ hkey
    have hlength := hkeys.length_eq
    rwa [keys, keys, List.length_map, List.length_map] at hlength
  · next hkey => exact (toList_insert_perm (Bool.eq_false_iff.mpr hkey) value).length_eq

/-- All entries of the second map, and those of the first under other keys. -/
def addAll (m added : StringMap α) : StringMap α :=
  added.toList.foldl (fun m e => m.insert e.1 e.2) m

theorem contains_foldl_insert (entries : List (String × α)) (m : StringMap α) (k : String) :
    (entries.foldl (fun m e => m.insert e.1 e.2) m).contains k =
      ((entries.map Prod.fst).contains k || m.contains k) := by
  induction entries generalizing m with
  | nil => rfl
  | cons entry rest ih =>
    rw [List.foldl_cons, ih, contains_insert, List.map_cons, List.contains_cons, Bool.or_left_comm,
      Bool.or_assoc]

theorem contains_addAll (m added : StringMap α) (k : String) :
    (m.addAll added).contains k = (added.contains k || m.contains k) := by
  have hkeys : (added.toList.map Prod.fst).contains k = added.contains k := by
    rw [Bool.eq_iff_iff, List.contains_iff_mem]
    exact contains_iff_mem_keys.symm
  rw [addAll, contains_foldl_insert, hkeys]

theorem toList_foldl_insert_perm {entries : List (String × α)} {m : StringMap α}
    (hkeys : (entries.map Prod.fst).Nodup) (hnew : ∀ e ∈ entries, m.contains e.1 = false) :
    (entries.foldl (fun m e => m.insert e.1 e.2) m).toList.Perm (entries ++ m.toList) := by
  induction entries generalizing m with
  | nil => exact .refl _
  | cons entry rest ih =>
    obtain ⟨hentry, hrest⟩ := List.nodup_cons.mp hkeys
    have hlater : ∀ e ∈ rest, (m.insert entry.1 entry.2).contains e.1 = false := by
      intro e he
      have hne : e.1 ≠ entry.1 := fun heq => hentry (heq ▸ List.mem_map_of_mem he)
      rw [contains_insert, hnew e (List.mem_cons_of_mem entry he), Bool.or_false,
        beq_eq_false_iff_ne]
      exact hne
    have hfirst := toList_insert_perm (hnew entry List.mem_cons_self) entry.2
    exact (ih hrest hlater).trans ((hfirst.append_left rest).trans List.perm_middle)

/-- Under keys that differ, every entry stays. -/
theorem toList_ofList_perm {entries : List (String × α)} (hkeys : (entries.map Prod.fst).Nodup) :
    (ofList entries).toList.Perm entries := by
  have hperm := toList_foldl_insert_perm (m := empty) hkeys fun _ _ => rfl
  rwa [show (empty : StringMap α).toList = [] from rfl, List.append_nil] at hperm

theorem toList_addAll_perm {m added : StringMap α}
    (hnew : ∀ k ∈ added.keys, m.contains k = false) :
    (m.addAll added).toList.Perm (added.toList ++ m.toList) :=
  toList_foldl_insert_perm added.keys_nodup fun _ he => hnew _ (List.mem_map_of_mem he)

end StringMap

end StoryEngine
