import StoryEngine.Content.Report
import StoryEngine.Proofs.Content.Listing
import StoryEngine.Proofs.Result

/-! # Reports and loading

A report goes through all files of a directory, while loading stops at the first one at fault. As
long as neither has met a fault, the names that the report has seen are the names that have been
loaded. The first file at fault is therefore the same for both, and an error once reported stays.
-/

namespace StoryEngine

set_option autoImplicit false

variable {α ε : Type}

namespace StringMap

/-- No key of the second map is one of the first. -/
def Apart (m added : StringMap α) : Prop := ∀ k ∈ added.keys, m.contains k = false

def degradedIn (actions : α → List Action) (m : StringMap α) : Nat :=
  (m.values.flatMap actions).countP Action.isDegraded

theorem degradedIn_addAll (actions : α → List Action) {m added : StringMap α}
    (h : m.Apart added) :
    (m.addAll added).degradedIn actions = m.degradedIn actions + added.degradedIn actions := by
  have hvalues : (m.addAll added).values.Perm (added.values ++ m.values) := by
    have hentries := (toList_addAll_perm h).map Prod.snd
    rwa [List.map_append] at hentries
  rw [degradedIn, (hvalues.flatMap_right actions).countP_eq, List.flatMap_append,
    List.countP_append, Nat.add_comm]
  rfl

theorem degradedIn_nothing (m : StringMap α) : (m.degradedIn fun _ => []) = 0 := by
  rw [degradedIn, List.flatMap_eq_nil_iff.mpr fun _ _ => rfl, List.countP_nil]

end StringMap

namespace Inspection

variable {path : String} {twice : String → String → String → ContentError} {i : Inspection}

theorem errors_define_eq_nil_iff {name : String} :
    (define path twice i name).report.errors = [] ↔
      i.report.errors = [] ∧ i.definedIn.contains name = false := by
  unfold define StringMap.contains
  cases i.definedIn.get? name <;> simp

theorem contains_define (name other : String) :
    (define path twice i name).definedIn.contains other =
      (other == name || i.definedIn.contains other) :=
  StringMap.contains_insert i.definedIn name other path

theorem errors_foldl_define_eq_nil_iff {names : List String} (hnames : names.Nodup) :
    (names.foldl (define path twice) i).report.errors = [] ↔
      i.report.errors = [] ∧ ∀ name ∈ names, i.definedIn.contains name = false := by
  induction names generalizing i with
  | nil => simp
  | cons name rest ih =>
    obtain ⟨hname, hrest⟩ := List.nodup_cons.mp hnames
    -- The names differ, so a definition does not make a later name an old one.
    have hlater : ∀ other ∈ rest, (define path twice i name).definedIn.contains other =
        i.definedIn.contains other := by
      intro other hother
      have hne : other ≠ name := fun h => hname (h ▸ hother)
      rw [contains_define, beq_eq_false_iff_ne.mpr hne, Bool.false_or]
    rw [List.foldl_cons, ih hrest, errors_define_eq_nil_iff, List.forall_mem_cons, and_assoc]
    exact and_congr_right fun _ => and_congr_right fun _ =>
      forall₂_congr fun other hother => by rw [hlater other hother]

theorem contains_foldl_define (names : List String) (other : String) :
    (names.foldl (define path twice) i).definedIn.contains other =
      (names.contains other || i.definedIn.contains other) := by
  induction names generalizing i with
  | nil => rfl
  | cons name rest ih =>
    rw [List.foldl_cons, ih, contains_define, List.contains_cons, Bool.or_left_comm, Bool.or_assoc]

theorem degraded_foldl_define (names : List String) :
    (names.foldl (define path twice) i).report.degraded = i.report.degraded := by
  induction names generalizing i with
  | nil => rfl
  | cons name rest ih => exact ih

theorem errors_reject_ne_nil (error : ContentError) : (i.reject error).report.errors ≠ [] :=
  List.append_ne_nil_of_right_ne_nil _ (List.cons_ne_nil error [])

/-- Neither has met a fault so far. -/
structure Agrees (actions : α → List Action) (i : Inspection) (loaded : StringMap α) : Prop where
  clean : i.report.errors = []
  contains : ∀ name, i.definedIn.contains name = loaded.contains name
  degraded : i.report.degraded = loaded.degradedIn actions

/-- The report has an error in it exactly if loading failed. -/
def Matches (actions : α → List Action) (i : Inspection) : Except ε (StringMap α) → Prop
  | .ok loaded => Agrees actions i loaded
  | .error _ => i.report.errors ≠ []

variable {actions : α → List Action} {loaded : StringMap α}

theorem agrees_start : Agrees actions .start (∅ : StringMap α) := ⟨rfl, fun _ => rfl, rfl⟩

/-- A file that can be read is added if its names are new, and this is when they are reported to be
defined for the first time. -/
theorem Agrees.matches_added (h : Agrees actions i loaded) (path : String)
    (twice : String → String → String → ContentError) {added : StringMap α}
    {outcome : Except ε (StringMap α)} {degraded : Nat}
    (hdegraded : degraded = added.degradedIn actions)
    (hnew : loaded.Apart added → outcome = .ok (loaded.addAll added))
    (hold : ¬loaded.Apart added → ∃ e, outcome = .error e) :
    Matches actions (added.keys.foldl (define path twice) (i.accept degraded))
      outcome := by
  have herrors : (added.keys.foldl (define path twice)
      (i.accept degraded)).report.errors = [] ↔ loaded.Apart added := by
    rw [errors_foldl_define_eq_nil_iff added.keys_nodup]
    refine (and_iff_right h.clean).trans (forall₂_congr fun name _ => ?_)
    exact (h.contains name).symm ▸ Iff.rfl
  by_cases hapart : loaded.Apart added
  · rw [hnew hapart]
    refine ⟨herrors.mpr hapart, fun name => ?_, ?_⟩
    · rw [contains_foldl_define, StringMap.contains_addAll, ← h.contains name,
        Bool.eq_iff_iff.mpr (List.contains_iff_mem.trans StringMap.contains_iff_mem_keys.symm)]
      rfl
    · rw [degraded_foldl_define, StringMap.degradedIn_addAll actions hapart,
        ← h.degraded, ← hdegraded]
      rfl
  · obtain ⟨e, rfl⟩ := hold hapart
    exact fun hclean => hapart (herrors.mp hclean)

section

variable {inspect : Inspection → String → Inspection}
  {load : StringMap α → String → Except ε (StringMap α)}

theorem errors_foldl_ne_nil
    (hkept : ∀ i path, i.report.errors ≠ [] → (inspect i path).report.errors ≠ [])
    (paths : List String) (h : i.report.errors ≠ []) :
    (paths.foldl inspect i).report.errors ≠ [] := by
  induction paths generalizing i with
  | nil => exact h
  | cons path rest ih => exact ih (hkept i path h)

/-- What holds file by file holds of all files, wherever loading stops. -/
theorem matches_foldl
    (hstep : ∀ i loaded path, Agrees actions i loaded → Matches actions (inspect i path)
      (load loaded path))
    (hkept : ∀ i path, i.report.errors ≠ [] → (inspect i path).report.errors ≠ [])
    (paths : List String) (h : Agrees actions i loaded) :
    Matches actions (paths.foldl inspect i) (paths.foldlM load loaded) := by
  induction paths generalizing i loaded with
  | nil => exact h
  | cons path rest ih =>
    have hfirst := hstep i loaded path h
    rw [List.foldl_cons, List.foldlM_cons]
    cases hload : load loaded path with
    | error e =>
      -- Loading stops here. The report goes on and keeps its error.
      rw [hload] at hfirst
      exact errors_foldl_ne_nil hkept rest hfirst
    | ok next =>
      rw [hload] at hfirst
      exact ih hfirst

theorem ofListing_agrees
    (hstep : ∀ i loaded path, Agrees actions i loaded → Matches actions (inspect i path)
      (load loaded path))
    (hkept : ∀ i path, i.report.errors ≠ [] → (inspect i path).report.errors ≠ [])
    (directory : String) (listing : Except FileFault (List String)) (fault : FileFault → ε) :
    let report := ContentReport.ofListing directory listing inspect
    let outcome := listing.mapError fault >>= fun paths => paths.foldlM load ∅
    (report.errors = [] ↔ ∃ loaded, outcome = .ok loaded) ∧
      ∀ loaded, outcome = .ok loaded → report.degraded = loaded.degradedIn actions := by
  intro report outcome
  cases listing with
  | error e => exact ⟨iff_of_false nofun nofun, nofun⟩
  | ok paths =>
    have hmatches := matches_foldl hstep hkept paths agrees_start
    change Matches actions _ outcome at hmatches
    cases houtcome : outcome with
    | error e =>
      rw [houtcome] at hmatches
      exact ⟨iff_of_false hmatches nofun, nofun⟩
    | ok loaded =>
      rw [houtcome] at hmatches
      refine ⟨iff_of_true hmatches.clean ⟨loaded, rfl⟩, fun _ heq => ?_⟩
      cases heq
      exact hmatches.degraded

end

end Inspection

namespace ScriptLibrary

theorem addFile_of_apart {library file : ScriptLibrary} (h : library.Apart file) (path : String) :
    library.addFile path file = .ok (library.addAll file) := by
  have hnone : file.keys.find? library.contains = none :=
    List.find?_eq_none.mpr fun id hid => by rw [h id hid]; exact Bool.false_ne_true
  rw [addFile, hnone]
  rfl

theorem addFile_of_not_apart {library file : ScriptLibrary} (h : ¬library.Apart file)
    (path : String) : ∃ e, library.addFile path file = .error e := by
  rw [addFile]
  cases hfind : file.keys.find? library.contains with
  | some id => exact ⟨_, rfl⟩
  | none =>
    refine absurd (fun id hid => ?_) h
    exact Bool.eq_false_iff.mpr (List.find?_eq_none.mp hfind id hid)

end ScriptLibrary

namespace Inspection

theorem matches_scriptFile (files : Files) (i : Inspection) (library : ScriptLibrary)
    (path : String) (h : Agrees Script.actions i library) :
    Matches Script.actions (scriptFile files i path) (library.loadFile files path) := by
  unfold scriptFile ScriptLibrary.loadFile
  cases files.readAs path ScriptLibrary.parse? with
  | error trouble => cases trouble <;> exact errors_reject_ne_nil _
  | ok file =>
    exact h.matches_added path .scriptTwice rfl
      (fun hnew => ScriptLibrary.addFile_of_apart hnew path)
      (fun hold => ScriptLibrary.addFile_of_not_apart hold path)

theorem errors_scriptFile_ne_nil (files : Files) (i : Inspection) (path : String)
    (h : i.report.errors ≠ []) : (scriptFile files i path).report.errors ≠ [] := by
  unfold scriptFile
  split
  · exact errors_reject_ne_nil _
  · next file _ =>
    exact fun hclean => h ((errors_foldl_define_eq_nil_iff file.keys_nodup).mp hclean).1

end Inspection

namespace ScheduleBook

/-- Every schedule stands under the name of its actor. -/
def ByActor (book : ScheduleBook) : Prop := ∀ e ∈ book.toList, e.2.actor = e.1

theorem loadFile_of_readText {files : Files} {path content : String}
    (h : files.readText path = .ok content) (book : ScheduleBook) :
    book.loadFile files path =
      parse content path >>= fun file => book.addAll path file.values := by
  rw [loadFile, h]
  rfl

theorem byActor_add {book : ScheduleBook} (h : book.ByActor) (s : Schedule) (origin : String) :
    ByActor (book.add s origin).1 := by
  intro e he
  rcases StringMap.mem_put s.actor s book.entries e he with rfl | he
  · rfl
  · exact h e he

theorem addAll_cons (book : ScheduleBook) (origin : String) (s : Schedule) (rest : List Schedule) :
    book.addAll origin (s :: rest) =
      if book.contains s.actor then .error (.duplicate s.actor origin)
      else addAll (book.insert s.actor s) origin rest := by
  rw [addAll, add]
  cases book.contains s.actor <;> rfl

theorem byActor_addAll {schedules : List Schedule} {book result : ScheduleBook} {origin : String}
    (h : book.addAll origin schedules = .ok result) (hbook : book.ByActor) : result.ByActor := by
  induction schedules generalizing book with
  | nil =>
    cases h
    exact hbook
  | cons s rest ih =>
    rw [addAll_cons] at h
    split at h
    · cases h
    · exact ih h (byActor_add hbook s origin)

theorem byActor_parse {content origin : String} {book : ScheduleBook}
    (h : parse content origin = .ok book) : book.ByActor := by
  unfold parse at h
  split at h
  · refine foldlM_keeps h (fun {_ e _} hstep hbook => ?_) nofun
    obtain ⟨s, _, hadd⟩ := bind_eq_ok_iff.mp hstep
    exact byActor_addAll hadd hbook
  · cases h

theorem addAll_of_forall_new {entries : List (String × Schedule)} {book : ScheduleBook}
    (hactor : ∀ e ∈ entries, e.2.actor = e.1) (hkeys : (entries.map Prod.fst).Nodup)
    (hnew : ∀ k ∈ entries.map Prod.fst, book.contains k = false) (origin : String) :
    book.addAll origin (entries.map Prod.snd) =
      .ok (entries.foldl (fun book e => book.insert e.1 e.2) book) := by
  induction entries generalizing book with
  | nil => rfl
  | cons entry rest ih =>
    obtain ⟨hentry, hrest⟩ := List.nodup_cons.mp hkeys
    obtain ⟨hfirst, hlater⟩ := List.forall_mem_cons.mp hnew
    obtain ⟨hname, hnames⟩ := List.forall_mem_cons.mp hactor
    rw [List.map_cons, addAll_cons, hname, hfirst, if_neg Bool.false_ne_true]
    refine ih hnames hrest fun k hk => ?_
    have hne : k ≠ entry.1 := fun h => hentry (h ▸ hk)
    rw [StringMap.contains_insert, hlater k hk, beq_eq_false_iff_ne.mpr hne, Bool.or_false]

theorem addAll_of_exists_old {schedules : List Schedule} {book : ScheduleBook}
    (h : ∃ s ∈ schedules, book.contains s.actor = true) (origin : String) :
    ∃ e, book.addAll origin schedules = .error e := by
  induction schedules generalizing book with
  | nil => exact absurd h nofun
  | cons s rest ih =>
    rw [addAll_cons]
    split
    · exact ⟨_, rfl⟩
    · next hs =>
      obtain ⟨other, hother, hold⟩ := h
      rcases List.mem_cons.mp hother with rfl | hother
      · exact absurd hold hs
      · refine ih ⟨other, hother, ?_⟩
        rw [StringMap.contains_insert, hold, Bool.or_true]

theorem addAll_of_apart {book file : ScheduleBook} (hfile : file.ByActor) (h : book.Apart file)
    (origin : String) : book.addAll origin file.values = .ok (StringMap.addAll book file) :=
  addAll_of_forall_new hfile file.keys_nodup h origin

theorem addAll_of_not_apart {book file : ScheduleBook} (hfile : file.ByActor)
    (h : ¬book.Apart file) (origin : String) : ∃ e, book.addAll origin file.values = .error e := by
  obtain ⟨k, hk, hold⟩ : ∃ k ∈ file.keys, book.contains k = true := by
    simpa [StringMap.Apart] using h
  obtain ⟨e, he, rfl⟩ := List.mem_map.mp hk
  exact addAll_of_exists_old ⟨e.2, List.mem_map_of_mem he, by rwa [hfile e he]⟩ origin

end ScheduleBook

namespace Inspection

theorem matches_scheduleFile (files : Files) (i : Inspection) (book : ScheduleBook) (path : String)
    (h : Agrees (fun _ => []) i book) :
    Matches (fun _ => []) (scheduleFile files i path) (book.loadFile files path) := by
  cases hread : files.readText path with
  | error fault =>
    rw [scheduleFile, ScheduleBook.loadFile, hread]
    exact errors_reject_ne_nil _
  | ok content =>
    rw [scheduleFile, hread, ScheduleBook.loadFile_of_readText hread]
    dsimp only
    cases hparse : ScheduleBook.parse content path with
    | error cause => exact errors_reject_ne_nil _
    | ok file =>
      have hfile := ScheduleBook.byActor_parse hparse
      exact h.matches_added path .scheduleTwice file.degradedIn_nothing.symm
        (fun hnew => ScheduleBook.addAll_of_apart hfile hnew path)
        (fun hold => ScheduleBook.addAll_of_not_apart hfile hold path)

theorem errors_scheduleFile_ne_nil (files : Files) (i : Inspection) (path : String)
    (h : i.report.errors ≠ []) : (scheduleFile files i path).report.errors ≠ [] := by
  unfold scheduleFile
  split
  · exact errors_reject_ne_nil _
  · split
    · exact errors_reject_ne_nil _
    · next book _ =>
      exact fun hclean => h ((errors_foldl_define_eq_nil_iff book.keys_nodup).mp hclean).1

end Inspection

namespace ContentReport

theorem schedules_eq (files : Files) (directory : String) :
    schedules files directory = ofListing directory
      (files.pathsWith Files.scheduleExtensions directory) (Inspection.scheduleFile files) := by
  rw [schedules, Files.namesWithEither_eq files (by decide)]
  rfl

/-- The reports on scripts and on schedules are without errors exactly if the directories can be
loaded, and a loaded library has as many degraded actions as reported. -/
theorem errors_eq_nil_iff_loads (files : Files) (directory : String) :
    ((scripts files directory).errors = [] ↔
        ∃ library, ScriptLibrary.load files directory = .ok library) ∧
      (∀ library, ScriptLibrary.load files directory = .ok library →
        (scripts files directory).degraded = library.degradedActions) ∧
      ((schedules files directory).errors = [] ↔
        ∃ book, ScheduleBook.load files directory = .ok book) := by
  obtain ⟨hscripts, hdegraded⟩ := Inspection.ofListing_agrees (Inspection.matches_scriptFile files)
    (Inspection.errors_scriptFile_ne_nil files) directory
    (files.pathsWith Files.scriptExtensions directory) (ContentError.directory directory)
  obtain ⟨hschedules, -⟩ := Inspection.ofListing_agrees (Inspection.matches_scheduleFile files)
    (Inspection.errors_scheduleFile_ne_nil files) directory
    (files.pathsWith Files.scheduleExtensions directory)
    (fun fault => ScheduleError.unreadable directory fault.message)
  rw [schedules_eq]
  exact ⟨hscripts, hdegraded, hschedules⟩

end ContentReport

end StoryEngine
