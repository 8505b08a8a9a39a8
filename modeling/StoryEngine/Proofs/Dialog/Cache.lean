import StoryEngine.Proofs.Dialog.Loadable

/-! # Answers from the cache

A table that a library keeps is the one in the file, for the name as it was spelled when the file
was read. An answer is therefore the same as that of a library that was not asked before, except
that it may be for another spelling of the name.
-/

namespace StoryEngine

set_option autoImplicit false

namespace DialogLibrary

inductive Request where
  | table (npc : String)
  | preload (npcs : List String)
  | invalidate (npc : String)
deriving DecidableEq

/-- The names in a request for tables. -/
def Request.names : Request → List String
  | .table npc => [npc]
  | .preload npcs => npcs
  | .invalidate _ => []

def serve (files : Files) (library : DialogLibrary) : Request → DialogLibrary
  | .table npc => (library.table files npc).1
  | .preload npcs => (library.preload files npcs).2
  | .invalidate npc => (library.invalidate npc).2

def serveAll (files : Files) (library : DialogLibrary) (requests : List Request) : DialogLibrary :=
  requests.foldl (serve files) library

def keeps (library : DialogLibrary) (npc : String) : Bool :=
  (library.tables.lookup (key npc)).isSome

def tableReads (files : Files) (library : DialogLibrary) (npc : String) : List String :=
  if !library.keeps npc && (read files library.directory npc).isOk then [npc] else []

def preloadReads (files : Files) (library : DialogLibrary) : List String → List String
  | [] => []
  | npc :: rest =>
    preloadReads files (library.table files npc).1 rest ++ tableReads files library npc

def requestReads (files : Files) (library : DialogLibrary) : Request → List String
  | .table npc => tableReads files library npc
  | .preload npcs => preloadReads files library npcs
  | .invalidate _ => []

/-- The names for which a file was read and is kept from then on, the latest first. -/
def reads (files : Files) (library : DialogLibrary) : List Request → List String
  | [] => []
  | request :: rest =>
    reads files (library.serve files request) rest ++ requestReads files library request

/-- How the name of a person was spelled when the file was read last. -/
def lastSpelling? (names : List String) (npc : String) : Option String :=
  names.find? fun name => key name == key npc

variable {files : Files} {directory : String} {library : DialogLibrary} {names : List String}

theorem lastSpelling?_cons (name : String) (names : List String) (npc : String) :
    lastSpelling? (name :: names) npc =
      if key npc = key name then some name else lastSpelling? names npc := by
  unfold lastSpelling?
  by_cases h : key npc = key name
  · rw [if_pos h]
    exact List.find?_cons_of_pos (beq_iff_eq.mpr h.symm)
  · rw [if_neg h]
    exact List.find?_cons_of_neg fun hkey => h (beq_iff_eq.mp hkey).symm

theorem key_of_lastSpelling? {npc spelling : String}
    (h : lastSpelling? names npc = some spelling) : key spelling = key npc :=
  beq_iff_eq.mp (List.find?_some (p := fun name => key name == key npc) h)

/-- Spellings of one name stand for the same file. -/
theorem read_of_key_eq {npc other : String} (hkey : key other = key npc) {table : DialogTable}
    (h : read files directory npc = .ok table) :
    read files directory other = .ok { table with npc := other } := by
  rw [read_eq_ok_iff] at h ⊢
  rw [hkey]
  exact Files.readAs_dialog_npc h other

theorem npc_of_read {npc : String} {table : DialogTable}
    (h : read files directory npc = .ok table) : table.npc = npc := by
  have hsame := h.symm.trans (read_of_key_eq rfl h)
  exact congrArg DialogTable.npc (Except.ok.inj hsame)

theorem lookup_dropLast {tables : List (String × DialogTable)} {name : String}
    {table : DialogTable} (h : tables.dropLast.lookup name = some table) :
    tables.lookup name = some table := by
  rcases List.eq_nil_or_concat tables with rfl | ⟨front, last, rfl⟩
  · exact h
  · rw [List.concat_eq_append, List.dropLast_concat] at h
    rw [List.concat_eq_append, List.lookup_append, h]
    rfl

/-- Each table that is kept was read for the spelling that was read last, and the file still has
it. -/
structure KeepsReads (files : Files) (directory : String) (names : List String)
    (library : DialogLibrary) : Prop where
  directory_eq : library.directory = directory
  kept : ∀ npc table, library.tables.lookup (key npc) = some table →
    lastSpelling? names npc = some table.npc ∧ read files directory table.npc = .ok table

theorem keepsReads_ofDirectory (files : Files) (directory : String) (capacity : Nat) :
    KeepsReads files directory [] (ofDirectory directory capacity) :=
  ⟨rfl, nofun⟩

/-- A new table has its own key, and whatever else is kept was kept before. -/
theorem lookup_keep {npc name : String} {table found : DialogTable}
    (h : (library.keep npc table).tables.lookup name = some found) :
    name = key npc ∧ found = table ∨
      name ≠ key npc ∧ library.tables.lookup name = some found := by
  obtain ⟨others, htables, hothers⟩ : ∃ others,
      (library.keep npc table).tables = (key npc, table) :: others ∧
        (others.lookup name = some found → library.tables.lookup name = some found) := by
    unfold keep
    split
    · exact ⟨library.tables, rfl, id⟩
    · exact ⟨library.tables.dropLast, rfl, lookup_dropLast⟩
  rw [htables, StringMap.lookup_cons_ite] at h
  split at h
  · next hname => exact .inl ⟨hname, (Option.some.inj h).symm⟩
  · next hname => exact .inr ⟨hname, hothers h⟩

theorem KeepsReads.keep (h : KeepsReads files directory names library) {npc : String}
    {table : DialogTable} (hread : read files directory npc = .ok table) :
    KeepsReads files directory (npc :: names) (library.keep npc table) := by
  refine ⟨?_, fun other found hfound => ?_⟩
  · rw [← h.directory_eq, DialogLibrary.keep]
    split <;> rfl
  · rw [lastSpelling?_cons]
    rcases lookup_keep hfound with ⟨hkey, rfl⟩ | ⟨hkey, hkept⟩
    · rw [if_pos hkey, npc_of_read hread]
      exact ⟨rfl, hread⟩
    · rw [if_neg hkey]
      exact h.kept other found hkept

theorem KeepsReads.table (h : KeepsReads files directory names library) (npc : String) :
    KeepsReads files directory (tableReads files library npc ++ names)
      (library.table files npc).1 := by
  unfold DialogLibrary.table tableReads keeps
  cases hfound : library.tables.lookup (key npc) with
  | some table =>
    refine ⟨h.directory_eq, fun other found hother => h.kept other found ?_⟩
    dsimp only at hother
    rw [StringMap.lookup_cons_ite, without, StringMap.lookup_filter_ne] at hother
    split at hother
    · next hkey => rw [hkey, hfound, hother]
    · exact hother
  | none =>
    rw [h.directory_eq]
    cases hread : read files directory npc with
    | error error => exact ⟨h.directory_eq, h.kept⟩
    | ok table =>
      have hmiss : KeepsReads files directory names library.countMiss := ⟨h.directory_eq, h.kept⟩
      exact hmiss.keep hread

theorem KeepsReads.preload (h : KeepsReads files directory names library) (npcs : List String) :
    KeepsReads files directory (preloadReads files library npcs ++ names)
      (library.preload files npcs).2 := by
  induction npcs generalizing library names with
  | nil => exact h
  | cons npc rest ih =>
    have hrest := ih (h.table npc)
    rw [← List.append_assoc] at hrest
    exact hrest

theorem KeepsReads.invalidate (h : KeepsReads files directory names library) (npc : String) :
    KeepsReads files directory names (library.invalidate npc).2 := by
  refine ⟨h.directory_eq, fun other table hother => h.kept other table ?_⟩
  rw [DialogLibrary.invalidate, without, StringMap.lookup_filter_ne] at hother
  split at hother
  · cases hother
  · exact hother

theorem KeepsReads.serve (h : KeepsReads files directory names library) (request : Request) :
    KeepsReads files directory (requestReads files library request ++ names)
      (library.serve files request) := by
  cases request with
  | table npc => exact h.table npc
  | preload npcs => exact h.preload npcs
  | invalidate npc => exact h.invalidate npc

theorem KeepsReads.serveAll (h : KeepsReads files directory names library)
    (requests : List Request) :
    KeepsReads files directory (reads files library requests ++ names)
      (library.serveAll files requests) := by
  induction requests generalizing library names with
  | nil => exact h
  | cons request rest ih =>
    have hrest := ih (h.serve request)
    rw [← List.append_assoc] at hrest
    exact hrest

theorem table_ofDirectory (files : Files) (directory npc : String) (capacity : Nat) :
    ((ofDirectory directory capacity).table files npc).2 = read files directory npc := by
  unfold DialogLibrary.table
  cases h : read files (ofDirectory directory capacity).directory npc <;> exact h.symm

theorem KeepsReads.answer_of_not_keeps (h : KeepsReads files directory names library) {npc : String}
    (hkeeps : ¬library.keeps npc = true) :
    (library.table files npc).2 = read files directory npc := by
  rw [keeps, Option.not_isSome_iff_eq_none] at hkeeps
  rw [DialogLibrary.table, hkeeps, ← h.directory_eq]
  cases read files library.directory npc <;> rfl

theorem KeepsReads.answer_of_keeps (h : KeepsReads files directory names library) {npc : String}
    (hkeeps : library.keeps npc = true) : ∃ spelling table,
      lastSpelling? names npc = some spelling ∧ read files directory npc = .ok table ∧
        (library.table files npc).2 = .ok { table with npc := spelling } := by
  obtain ⟨kept, hkept⟩ := Option.isSome_iff_exists.mp hkeeps
  obtain ⟨hspelling, hread⟩ := h.kept npc kept hkept
  have hkey := key_of_lastSpelling? hspelling
  refine ⟨kept.npc, _, hspelling, read_of_key_eq hkey.symm hread, ?_⟩
  rw [DialogLibrary.table, hkept]

theorem KeepsReads.answer_eq_read_iff (h : KeepsReads files directory names library)
    {npc : String} :
    (library.table files npc).2 = read files directory npc ↔
      (library.keeps npc = true → lastSpelling? names npc = some npc) := by
  by_cases hkeeps : library.keeps npc = true
  · obtain ⟨spelling, table, hspelling, hread, hanswer⟩ := h.answer_of_keeps hkeeps
    have hnpc := npc_of_read hread
    rw [hanswer, hread, hspelling, Except.ok.injEq, Option.some.injEq]
    constructor
    · intro hsame _
      rw [← hnpc, ← hsame]
    · intro hsame
      rw [hsame hkeeps, ← hnpc]
  · exact iff_of_true (h.answer_of_not_keeps hkeeps) (absurd · hkeeps)

/-- Whatever a library was asked before, its answer is that of a library not asked before, for the
name as it was spelled when the file was read last if the table is kept. So the answers are the same
exactly if the table is not kept, or was read for the same spelling. -/
theorem table_eq_unasked_iff (files : Files) (directory : String) (capacity room : Nat)
    (requests : List Request) (npc : String) :
    let library := (ofDirectory directory capacity).serveAll files requests
    let spelling? := lastSpelling? (reads files (ofDirectory directory capacity) requests) npc
    let answer := (library.table files npc).2
    let unasked := ((ofDirectory directory room).table files npc).2
    (library.keeps npc = true → ∃ spelling table, spelling? = some spelling ∧
      unasked = .ok table ∧ answer = .ok { table with npc := spelling }) ∧
    (answer = unasked ↔ (library.keeps npc = true → spelling? = some npc)) := by
  intro library spelling? answer unasked
  have hlibrary := (keepsReads_ofDirectory files directory capacity).serveAll requests
  rw [List.append_nil] at hlibrary
  have hunasked : unasked = read files directory npc := table_ofDirectory files directory npc room
  rw [hunasked]
  exact ⟨hlibrary.answer_of_keeps, hlibrary.answer_eq_read_iff⟩

/-- The small spelling is answered with the table of the capital one, which was asked for before. -/
theorem mara_answers_as_Mara :
    let files := dialogStore ["mara.json"]
    let library := (ofDirectory "dialog" 1).serveAll files [.table "Mara"]
    let table : DialogTable := ⟨"mara", ∅, ∅, none, none, ∅⟩
    ((ofDirectory "dialog" 1).table files "mara").2 = .ok table ∧
      (library.table files "mara").2 = .ok { table with npc := "Mara" } ∧
      (library.table files "mara").2 ≠ ((ofDirectory "dialog" 1).table files "mara").2 := by
  intro files library table
  have hunasked : ((ofDirectory "dialog" 1).table files "mara").2 = .ok table := rfl
  have hanswer : (library.table files "mara").2 = .ok { table with npc := "Mara" } := rfl
  refine ⟨hunasked, hanswer, fun hsame => ?_⟩
  rw [hunasked, hanswer] at hsame
  exact absurd (congrArg DialogTable.npc (Except.ok.inj hsame)) (by decide)

theorem mem_tableReads {npc name : String} (h : name ∈ tableReads files library npc) :
    name = npc := by
  unfold tableReads at h
  split at h
  · exact List.mem_singleton.mp h
  · cases h

theorem mem_preloadReads {npcs : List String} {name : String}
    (h : name ∈ preloadReads files library npcs) : name ∈ npcs := by
  induction npcs generalizing library with
  | nil => cases h
  | cons npc rest ih =>
    rcases List.mem_append.mp h with hrest | hfirst
    · exact List.mem_cons_of_mem npc (ih hrest)
    · exact mem_tableReads hfirst ▸ List.mem_cons_self

theorem mem_requestReads {request : Request} {name : String}
    (h : name ∈ requestReads files library request) : name ∈ request.names := by
  cases request with
  | table npc => exact mem_tableReads h ▸ List.mem_singleton_self npc
  | preload npcs => exact mem_preloadReads h
  | invalidate npc => cases h

/-- Files are read for names that are asked for. -/
theorem mem_reads {requests : List Request} {name : String}
    (h : name ∈ reads files library requests) : ∃ request ∈ requests, name ∈ request.names := by
  induction requests generalizing library with
  | nil => cases h
  | cons request rest ih =>
    rcases List.mem_append.mp h with hrest | hfirst
    · obtain ⟨later, hlater, hname⟩ := ih hrest
      exact ⟨later, List.mem_cons_of_mem request hlater, hname⟩
    · exact ⟨request, List.mem_cons_self, mem_requestReads hfirst⟩

/-- The cache cannot be told from reading the file each time where a name is spelled in one way
only. -/
theorem table_eq_unasked_of_one_spelling (files : Files) (directory : String) (capacity room : Nat)
    {requests : List Request} {npc : String}
    (hone : ∀ request ∈ requests, ∀ name ∈ request.names, key name = key npc → name = npc) :
    (((ofDirectory directory capacity).serveAll files requests).table files npc).2 =
      ((ofDirectory directory room).table files npc).2 := by
  have hlibrary := (keepsReads_ofDirectory files directory capacity).serveAll requests
  rw [List.append_nil] at hlibrary
  rw [table_ofDirectory, hlibrary.answer_eq_read_iff]
  intro hkeeps
  obtain ⟨spelling, _, hspelling, _⟩ := hlibrary.answer_of_keeps hkeeps
  obtain ⟨request, hrequest, hname⟩ := mem_reads (List.mem_of_find?_eq_some hspelling)
  rw [hspelling, hone request hrequest spelling hname (key_of_lastSpelling? hspelling)]

end DialogLibrary

end StoryEngine
