import StoryEngine.Proofs.Dialog.Cache

/-! # The accounts of a dialog library

A library counts its lookups, and each table that it has read is still kept, has made room for
another one or was dropped on request. This holds for any requests, also when the files change
between them. A lookup that fails is counted, and leaves alone what is kept.
-/

namespace StoryEngine

set_option autoImplicit false

namespace DialogLibrary

/-- The lookups that find no table. -/
def failures (files : Files) (library : DialogLibrary) : List String → Nat
  | [] => 0
  | npc :: rest =>
    (if (library.table files npc).2.isOk then 0 else 1) +
      failures files (library.table files npc).1 rest

def lookUpAll (files : Files) (library : DialogLibrary) (npcs : List String) : DialogLibrary :=
  npcs.foldl (fun library npc => (library.table files npc).1) library

theorem preload_snd (files : Files) (library : DialogLibrary) (npcs : List String) :
    (library.preload files npcs).2 = library.lookUpAll files npcs := by
  induction npcs generalizing library with
  | nil => rfl
  | cons npc rest ih => exact ih (library.table files npc).1

/-- The tables that could be had and the lookups that failed are all that was asked for. -/
theorem preload_fst_add_failures (files : Files) (library : DialogLibrary) (npcs : List String) :
    (library.preload files npcs).1 + failures files library npcs = npcs.length := by
  induction npcs generalizing library with
  | nil => rfl
  | cons npc rest ih =>
    have hrest := ih (library.table files npc).1
    have hcount : (library.preload files (npc :: rest)).1 =
        ((library.table files npc).1.preload files rest).1 +
          (if (library.table files npc).2.isOk then 1 else 0) := rfl
    rw [hcount, failures, List.length_cons]
    split <;> omega

section

variable {α : Type} {tables : List (String × α)} {name : String}

theorem not_mem_keys_of_lookup_eq_none (h : tables.lookup name = none) :
    name ∉ tables.map Prod.fst := by
  rintro hmem
  obtain ⟨entry, hentry, rfl⟩ := List.mem_map.mp hmem
  simpa using List.lookup_eq_none_iff.mp h entry hentry

/-- Where the names differ, one table at most goes with a name. -/
theorem length_filter_name (h : (tables.map Prod.fst).Nodup) (name : String) :
    (tables.filter fun entry => entry.1 != name).length +
      (if (tables.lookup name).isSome then 1 else 0) = tables.length := by
  induction tables with
  | nil => rfl
  | cons entry rest ih =>
    obtain ⟨hfirst, hrest⟩ := List.nodup_cons.mp h
    rw [List.filter_cons, StringMap.lookup_cons_ite]
    by_cases hname : name = entry.1
    · -- The name does not come again, so that the filter takes off nothing more.
      have hkept : rest.filter (fun entry => entry.1 != name) = rest := by
        refine List.filter_eq_self.mpr fun other hother => bne_iff_ne.mpr ?_
        rintro hsame
        exact hfirst (hname ▸ hsame ▸ List.mem_map_of_mem hother)
      simp [hname ▸ hkept, hname]
    · have hother : (entry.1 != name) = true := bne_iff_ne.mpr (Ne.symm hname)
      rw [if_pos hother, if_neg hname, List.length_cons, List.length_cons, ← ih hrest]
      omega

theorem nodup_filter_name (h : (tables.map Prod.fst).Nodup) (name : String) :
    ((tables.filter fun entry => entry.1 != name).map Prod.fst).Nodup :=
  h.sublist (List.filter_sublist.map Prod.fst)

theorem name_not_mem_filter_name (tables : List (String × α)) (name : String) :
    name ∉ (tables.filter fun entry => entry.1 != name).map Prod.fst := by
  rintro hmem
  obtain ⟨entry, hentry, rfl⟩ := List.mem_map.mp hmem
  simpa using (List.mem_filter.mp hentry).2

end

/-- The counts of a library after so many lookups, of which some have failed, and after so many
tables were dropped on request. -/
structure Balanced (room lookups failed dropped : Nat) (library : DialogLibrary) : Prop where
  capacity_eq : library.capacity = room
  room_pos : 0 < room
  names_apart : (library.tables.map Prod.fst).Nodup
  cached_le : library.cached ≤ room
  lookups_eq : library.stats.hits + library.stats.misses = lookups
  misses_eq : library.stats.misses =
    failed + (library.cached + library.stats.evictions + dropped)

variable {room lookups failed dropped : Nat} {library : DialogLibrary}

theorem balanced_ofDirectory (directory : String) (capacity : Nat) :
    Balanced (max capacity 1) 0 0 0 (ofDirectory directory capacity) where
  capacity_eq := rfl
  room_pos := Nat.lt_of_lt_of_le Nat.zero_lt_one (Nat.le_max_right capacity 1)
  names_apart := List.nodup_nil
  cached_le := Nat.zero_le _
  lookups_eq := rfl
  misses_eq := rfl

theorem Balanced.hit (h : library.Balanced room lookups failed dropped) {npc : String}
    {table : DialogTable} (hfound : library.tables.lookup (key npc) = some table) :
    Balanced room (lookups + 1) failed dropped
      { library.countHit with tables := (key npc, table) :: library.without npc } := by
  have hlength := length_filter_name h.names_apart (key npc)
  rw [hfound] at hlength
  have hcached : (library.without npc).length + 1 = library.cached := hlength
  refine ⟨h.capacity_eq, h.room_pos, ?_, ?_, ?_, ?_⟩
  · exact List.nodup_cons.mpr
      ⟨name_not_mem_filter_name library.tables (key npc), nodup_filter_name h.names_apart (key npc)⟩
  · exact Nat.le_trans (Nat.le_of_eq hcached) h.cached_le
  · have := h.lookups_eq
    simp only [countHit]
    omega
  · have := h.misses_eq
    simp only [countHit, cached, List.length_cons] at *
    omega

theorem Balanced.countMiss (h : library.Balanced room lookups failed dropped) :
    library.countMiss.Balanced room (lookups + 1) (failed + 1) dropped where
  capacity_eq := h.capacity_eq
  room_pos := h.room_pos
  names_apart := h.names_apart
  cached_le := h.cached_le
  lookups_eq := by
    have := h.lookups_eq
    simp only [DialogLibrary.countMiss]
    omega
  misses_eq := by
    have := h.misses_eq
    simp only [DialogLibrary.countMiss, cached] at *
    omega

/-- A miss was not in vain if a table is kept from then on. -/
theorem Balanced.keep (h : library.Balanced room lookups (failed + 1) dropped) {npc : String}
    (hnew : library.tables.lookup (key npc) = none) (table : DialogTable) :
    (library.keep npc table).Balanced room lookups failed dropped := by
  have hname := not_mem_keys_of_lookup_eq_none hnew
  have hmisses := h.misses_eq
  have hcached := h.cached_le
  have hroom := h.room_pos
  have hcapacity := h.capacity_eq
  unfold DialogLibrary.keep
  split
  · next hless =>
    refine ⟨hcapacity, hroom, List.nodup_cons.mpr ⟨hname, h.names_apart⟩, ?_, h.lookups_eq, ?_⟩
    · exact hcapacity ▸ hless
    · simp only [cached, List.length_cons] at *
      omega
  · -- One table comes and one goes, and the table that goes is counted as an eviction.
    next hfull =>
    have hfewer : (library.tables.dropLast.map Prod.fst).Sublist (library.tables.map Prod.fst) :=
      (List.dropLast_sublist library.tables).map Prod.fst
    refine ⟨hcapacity, hroom, ?_, ?_, h.lookups_eq, ?_⟩
    · exact List.nodup_cons.mpr ⟨fun hmem => hname (hfewer.subset hmem), h.names_apart.sublist hfewer⟩
    · simp only [cached, List.length_cons, List.length_dropLast] at *
      omega
    · simp only [cached, List.length_cons, List.length_dropLast] at *
      omega

theorem Balanced.table (h : library.Balanced room lookups failed dropped) (files : Files)
    (npc : String) :
    (library.table files npc).1.Balanced room (lookups + 1)
      (failed + (if (library.table files npc).2.isOk then 0 else 1)) dropped := by
  unfold DialogLibrary.table
  cases hfound : library.tables.lookup (key npc) with
  | some table => exact h.hit hfound
  | none =>
    cases read files library.directory npc with
    | error error => exact h.countMiss
    | ok table => exact h.countMiss.keep hfound table

theorem Balanced.lookUpAll (h : library.Balanced room lookups failed dropped) (files : Files)
    (npcs : List String) :
    (library.lookUpAll files npcs).Balanced room (lookups + npcs.length)
      (failed + failures files library npcs) dropped := by
  induction npcs generalizing library lookups failed with
  | nil => exact h
  | cons npc rest ih =>
    have hrest := ih (h.table files npc)
    rw [Nat.add_assoc, Nat.add_comm 1, Nat.add_assoc] at hrest
    exact hrest

theorem Balanced.invalidate (h : library.Balanced room lookups failed dropped) (npc : String) :
    (library.invalidate npc).2.Balanced room lookups failed
      (dropped + (if (library.invalidate npc).1 then 1 else 0)) := by
  have hless : (library.invalidate npc).2.cached + (if (library.invalidate npc).1 then 1 else 0) =
      library.cached := length_filter_name h.names_apart (key npc)
  have hcached := h.cached_le
  have hmisses : (library.invalidate npc).2.stats.misses =
      failed + (library.cached + (library.invalidate npc).2.stats.evictions + dropped) :=
    h.misses_eq
  refine ⟨h.capacity_eq, h.room_pos, nodup_filter_name h.names_apart (key npc), ?_, h.lookups_eq, ?_⟩
  · omega
  · omega

/-- A request, and the files as they are when it is made. -/
structure Visit where
  files : Files
  request : Request

def serveVisits (library : DialogLibrary) (visits : List Visit) : DialogLibrary :=
  visits.foldl (fun library visit => library.serve visit.files visit.request) library

def lookupCount : List Visit → Nat
  | [] => 0
  | visit :: rest => visit.request.names.length + lookupCount rest

def failureCount (library : DialogLibrary) : List Visit → Nat
  | [] => 0
  | visit :: rest =>
    failures visit.files library visit.request.names +
      failureCount (library.serve visit.files visit.request) rest

/-- Whether a request takes away a table. -/
def drops (library : DialogLibrary) : Request → Bool
  | .invalidate npc => (library.invalidate npc).1
  | .table _ | .preload _ => false

def dropCount (library : DialogLibrary) : List Visit → Nat
  | [] => 0
  | visit :: rest =>
    (if library.drops visit.request then 1 else 0) +
      dropCount (library.serve visit.files visit.request) rest

theorem Balanced.serve (h : library.Balanced room lookups failed dropped) (files : Files)
    (request : Request) :
    (library.serve files request).Balanced room (lookups + request.names.length)
      (failed + failures files library request.names)
      (dropped + (if library.drops request then 1 else 0)) := by
  cases request with
  | table npc => exact h.table files npc
  | preload npcs =>
    rw [DialogLibrary.serve, preload_snd]
    exact h.lookUpAll files npcs
  | invalidate npc => exact h.invalidate npc

theorem Balanced.serveVisits (h : library.Balanced room lookups failed dropped)
    (visits : List Visit) :
    (library.serveVisits visits).Balanced room (lookups + lookupCount visits)
      (failed + failureCount library visits) (dropped + dropCount library visits) := by
  induction visits generalizing library lookups failed dropped with
  | nil => exact h
  | cons visit rest ih =>
    have hrest := ih (h.serve visit.files visit.request)
    rw [Nat.add_assoc, Nat.add_assoc, Nat.add_assoc] at hrest
    exact hrest

theorem tables_of_failed_lookup {files : Files} {npc : String}
    (h : (library.table files npc).2.isOk = false) :
    (library.table files npc).1.tables = library.tables := by
  unfold DialogLibrary.table at h ⊢
  split at h
  · cases h
  · split at h
    · next hread => rfl
    · cases h

/-- After any requests, whatever the files are at each of them, no more tables are kept than there
is room for, every lookup was a hit or a miss, and every miss has failed or has brought a table that
is kept, was given up or was dropped. A lookup that fails leaves the tables as they are, and a
request for several tables tells how many of its lookups did not fail. -/
theorem accounts_balance (directory : String) (capacity : Nat) (visits : List Visit) :
    let unasked := ofDirectory directory capacity
    let library := unasked.serveVisits visits
    library.capacity = max capacity 1 ∧ library.cached ≤ library.capacity ∧
      library.stats.hits + library.stats.misses = lookupCount visits ∧
      library.stats.misses = unasked.failureCount visits +
        (library.cached + library.stats.evictions + unasked.dropCount visits) ∧
      ∀ files,
        (∀ npc, (library.table files npc).2.isOk = false →
          (library.table files npc).1.tables = library.tables) ∧
        ∀ npcs, (library.preload files npcs).1 + failures files library npcs = npcs.length := by
  intro unasked library
  have hlibrary := (balanced_ofDirectory directory capacity).serveVisits visits
  rw [Nat.zero_add, Nat.zero_add, Nat.zero_add] at hlibrary
  refine ⟨hlibrary.capacity_eq, ?_, hlibrary.lookups_eq, hlibrary.misses_eq, fun files => ⟨?_, ?_⟩⟩
  · rw [hlibrary.capacity_eq]
    exact hlibrary.cached_le
  · exact fun npc => tables_of_failed_lookup
  · exact preload_fst_add_failures files library

/-- Four lookups miss: one table makes room for the next, which is dropped, and two find none. -/
def visitsToTwo : List Visit :=
  [⟨dialogStore ["mara.json", "olek.json"], .preload ["Mara", "nobody", "olek", "Olek"]⟩,
    ⟨dialogStore [], .table "mara"⟩, ⟨dialogStore [], .invalidate "Olek"⟩]

theorem mara_makes_room_for_olek :
    ((ofDirectory "dialog" 0).serveVisits visitsToTwo).stats = ⟨1, 4, 1⟩ ∧
      ((ofDirectory "dialog" 0).serveVisits visitsToTwo).capacity = 1 ∧
      ((ofDirectory "dialog" 0).serveVisits visitsToTwo).cached = 0 ∧
      lookupCount visitsToTwo = 5 ∧
      (ofDirectory "dialog" 0).failureCount visitsToTwo = 2 ∧
      (ofDirectory "dialog" 0).dropCount visitsToTwo = 1 ∧
      (((ofDirectory "dialog" 0).serveVisits visitsToTwo).table (dialogStore []) "mara").2.isOk =
        false ∧
      (((ofDirectory "dialog" 0).serveVisits visitsToTwo).table (dialogStore []) "mara").1.tables =
        ((ofDirectory "dialog" 0).serveVisits visitsToTwo).tables := by
  obtain ⟨hcapacity, -, -, -, hfiles⟩ := accounts_balance "dialog" 0 visitsToTwo
  have hlost : (((ofDirectory "dialog" 0).serveVisits visitsToTwo).table (dialogStore [])
      "mara").2.isOk = false := by decide +kernel
  refine ⟨?_, hcapacity, ?_, ?_, ?_, ?_, hlost, (hfiles (dialogStore [])).1 "mara" hlost⟩
  all_goals decide +kernel

end DialogLibrary

end StoryEngine
