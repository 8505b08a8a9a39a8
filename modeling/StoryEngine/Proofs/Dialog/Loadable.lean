import StoryEngine.Content.Report
import StoryEngine.Dialog.Library
import StoryEngine.Proofs.Content.Listing

/-! # Dialog files that can be loaded

A report on a dialog directory reads every file under the name that it has. A library reads the file
that is spelled in small letters. So a file of a directory without faults can be loaded if there is
a file with this spelling, and one that is spelled otherwise has to be in the cache.
-/

namespace StoryEngine

set_option autoImplicit false

theorem Files.readAs_eq_ok_iff {α : Type} {files : Files} {path : String}
    {parse? : String → Option α} {value : α} :
    files.readAs path parse? = .ok value ↔
      ∃ content, files.readText path = .ok content ∧ parse? content = some value := by
  unfold readAs
  cases files.readText path with
  | error fault => exact iff_of_false nofun nofun
  | ok content =>
    cases hparse : parse? content with
    | none => simp [hparse]
    | some found => simp [hparse]

namespace Inspection

variable {files : Files} {directory : String} {i : Inspection}

theorem errors_dialogFile_eq_nil_iff {name : String} :
    (dialogFile files directory i name).report.errors = [] ↔ i.report.errors = [] ∧
      ∃ table, files.readAs (Path.join directory name) (DialogTable.parse? (Path.stem name)) =
        .ok table := by
  unfold dialogFile
  dsimp only
  split
  · next hread =>
    refine iff_of_false (List.append_ne_nil_of_right_ne_nil _ (List.cons_ne_nil _ _)) ?_
    rintro ⟨-, _, htable⟩
    cases hread.symm.trans htable
  · next table hread => exact (and_iff_left ⟨table, hread⟩).symm

theorem errors_foldl_dialogFile_eq_nil_iff {names : List String} :
    (names.foldl (dialogFile files directory) i).report.errors = [] ↔ i.report.errors = [] ∧
      ∀ name ∈ names, ∃ table, files.readAs (Path.join directory name)
        (DialogTable.parse? (Path.stem name)) = .ok table := by
  induction names generalizing i with
  | nil => exact (and_iff_left nofun).symm
  | cons name rest ih =>
    rw [List.foldl_cons, ih, errors_dialogFile_eq_nil_iff, List.forall_mem_cons, and_assoc]

theorem files_foldl_dialogFile (names : List String) :
    (names.foldl (dialogFile files directory) i).report.files =
      i.report.files + names.length := by
  induction names generalizing i with
  | nil => rfl
  | cons name rest ih =>
    have hfirst : (dialogFile files directory i name).report.files = i.report.files + 1 := by
      unfold dialogFile
      dsimp only
      split <;> rfl
    rw [List.foldl_cons, ih, hfirst, List.length_cons, Nat.add_assoc, Nat.add_comm 1]

end Inspection

namespace ContentReport

variable {files : Files} {directory : String} {names : List String}
  (h : files.namesWith Files.dialogExtensions directory = .ok names)

include h

theorem dialog_eq : dialog files directory =
    (names.foldl (Inspection.dialogFile files directory) .start).report := by
  rw [dialog, h]
  rfl

theorem errors_dialog_eq_nil_iff : (dialog files directory).errors = [] ↔
    ∀ name ∈ names, ∃ table, files.readAs (Path.join directory name)
      (DialogTable.parse? (Path.stem name)) = .ok table := by
  rw [dialog_eq h, Inspection.errors_foldl_dialogFile_eq_nil_iff]
  exact and_iff_right rfl

theorem files_dialog : (dialog files directory).files = names.length := by
  rw [dialog_eq h, Inspection.files_foldl_dialogFile]
  exact Nat.zero_add _

end ContentReport

namespace DialogTable

/-- Whether a text is a dialog table does not depend on the person. -/
theorem ofJson?_npc (npc other : String) (v : Json) :
    ofJson? other v = (ofJson? npc v).map fun table => { table with npc := other } := by
  unfold ofJson?
  rw [Option.bind_eq_bind, Option.bind_eq_bind, Option.map_bind]
  refine Option.bind_congr fun parts _ => ?_
  rw [Function.comp_apply]
  split
  · simp only [Option.bind_eq_bind, Option.map_bind, Option.pure_def, Function.comp_def,
      Option.map_some]
  · rfl

theorem parse?_npc (npc other content : String) :
    parse? other content = (parse? npc content).map fun table => { table with npc := other } := by
  unfold parse?
  rw [Option.map_bind]
  exact Option.bind_congr fun v _ => ofJson?_npc npc other v

end DialogTable

theorem Files.readAs_dialog_npc {files : Files} {path npc : String} {table : DialogTable}
    (h : files.readAs path (DialogTable.parse? npc) = .ok table) (other : String) :
    files.readAs path (DialogTable.parse? other) = .ok { table with npc := other } := by
  obtain ⟨content, hread, hparse⟩ := readAs_eq_ok_iff.mp h
  refine readAs_eq_ok_iff.mpr ⟨content, hread, ?_⟩
  rw [DialogTable.parse?_npc npc, hparse]
  rfl

namespace DialogLibrary

theorem extension?_key_json {npc : String} (h : npc ≠ "") :
    Path.extension? (key npc ++ ".json") = some "json" := by
  have hkey : key npc ≠ "" := by
    intro heq
    have hlist := congrArg String.toList heq
    rw [key, Text.toList_asciiLower] at hlist
    exact h (String.toList_inj.mp (List.map_eq_nil_iff.mp hlist))
  have hparts : key npc ++ ".json" = key npc ++ "." ++ "json" := by
    rw [String.append_assoc]
    rfl
  rw [Path.extension?, hparts, Path.splitName_append hkey (by decide)]

theorem read_eq_ok_iff {files : Files} {directory npc : String} {table : DialogTable} :
    read files directory npc = .ok table ↔
      files.readAs (Path.join directory (key npc ++ ".json")) (DialogTable.parse? npc) =
        .ok table := by
  unfold read Files.readAs
  dsimp only
  cases hread : files.readText (Path.join directory (key npc ++ ".json")) with
  | error fault =>
    refine iff_of_false (fun h => ?_) nofun
    split at h <;> cases h
  | ok content =>
    have hpresent : files.isPresent (Path.join directory (key npc ++ ".json")) = true := by
      rw [Files.isPresent, Files.readText_eq_ok_iff.mp hread]
      rfl
    rw [if_pos hpresent]
    dsimp only
    cases hparse : DialogTable.parse? npc content with
    | none => exact iff_of_false nofun nofun
    | some found => simp

theorem isOk_read_iff {files : Files} {directory npc : String} :
    (read files directory npc).isOk = true ↔
      ∃ table, files.readAs (Path.join directory (key npc ++ ".json")) (DialogTable.parse? npc) =
        .ok table := by
  simp only [← read_eq_ok_iff]
  cases read files directory npc with
  | error error => exact iff_of_false Bool.false_ne_true nofun
  | ok table => exact iff_of_true rfl ⟨table, rfl⟩

theorem isOk_table (files : Files) (library : DialogLibrary) (npc : String) :
    (library.table files npc).2.isOk = ((library.tables.lookup (key npc)).isSome ||
      (read files library.directory npc).isOk) := by
  unfold table
  cases library.tables.lookup (key npc) with
  | some table => rfl
  | none => cases read files library.directory npc <;> rfl

theorem parts_of_hasExtension {name : String}
    (h : Files.hasExtension Files.dialogExtensions name = true) :
    ∃ extension, name = Path.stem name ++ "." ++ extension ∧ Path.stem name ≠ "" ∧
      Text.asciiLower extension = "json" := by
  unfold Files.hasExtension at h
  split at h
  · next extension hextension =>
    obtain ⟨hparts, hstem⟩ := Path.eq_of_extension? hextension
    exact ⟨extension, hparts, hstem, List.mem_singleton.mp (List.contains_iff_mem.mp h)⟩
  · cases h

theorem key_json_eq {name : String} (h : Files.hasExtension Files.dialogExtensions name = true) :
    key (Path.stem name) ++ ".json" = Text.asciiLower name := by
  obtain ⟨extension, hparts, -, hextension⟩ := parts_of_hasExtension h
  conv => rhs; rw [hparts]
  rw [Text.asciiLower_append, Text.asciiLower_append, hextension, String.append_assoc]
  rfl

section

variable {files : Files} {directory : String} {names : List String} (hfiles : files.WellFormed)
  (hnames : files.namesWith Files.dialogExtensions directory = .ok names)
  (hclean : (ContentReport.dialog files directory).errors = [])

include hfiles hnames hclean

theorem isOk_read_iff_mem {npc : String} (hplain : Path.Plain npc) (hnpc : npc ≠ "") :
    (read files directory npc).isOk = true ↔ key npc ++ ".json" ∈ names := by
  have hextension := extension?_key_json hnpc
  have hproper : Path.Proper (key npc ++ ".json") :=
    Path.proper_of_extension? (Path.plain_append.mpr ⟨hplain.asciiLower, by decide⟩) hextension
      (by decide)
  rw [isOk_read_iff]
  constructor
  · rintro ⟨table, hread⟩
    -- What can be read is a file, and its extension is in small letters.
    obtain ⟨content, hcontent, -⟩ := Files.readAs_eq_ok_iff.mp hread
    rw [Files.mem_namesWith_iff hnames hfiles hproper, Files.isFile_iff]
    refine ⟨⟨.text content, Files.readText_eq_ok_iff.mp hcontent, nofun⟩, ?_⟩
    rw [Files.hasExtension, hextension]
    decide
  · intro hmem
    -- The report has read the file, though perhaps for a person spelled otherwise.
    obtain ⟨table, hread⟩ := (ContentReport.errors_dialog_eq_nil_iff hnames).mp hclean _ hmem
    exact ⟨_, Files.readAs_dialog_npc hread npc⟩

theorem isOk_read_stem_iff {name : String} (hname : name ∈ names) :
    (read files directory (Path.stem name)).isOk = true ↔ Text.asciiLower name ∈ names := by
  have hextension := Files.hasExtension_of_mem_namesWith hnames hname
  have hplain := Files.plain_of_mem_namesWith hnames hfiles hname
  obtain ⟨extension, hparts, hstem, -⟩ := parts_of_hasExtension hextension
  rw [hparts, Path.plain_append, Path.plain_append] at hplain
  rw [isOk_read_iff_mem hfiles hnames hclean hplain.1.1 hstem, key_json_eq hextension]

/-- In a directory without faults, the table for a file can be had if it is in the cache or if the
file's name in small letters is the name of a file as well. -/
theorem isOk_table_stem_iff {library : DialogLibrary} (hlibrary : library.directory = directory) :
    (ContentReport.dialog files directory).files = names.length ∧ ∀ name ∈ names,
      ((library.table files (Path.stem name)).2.isOk = true ↔
        (library.tables.lookup (key (Path.stem name))).isSome = true ∨
          Text.asciiLower name ∈ names) := by
  refine ⟨ContentReport.files_dialog hnames, fun name hname => ?_⟩
  rw [isOk_table, Bool.or_eq_true, hlibrary, isOk_read_stem_iff hfiles hnames hclean hname]

end

/-- A directory of dialog tables without keywords, one under each name. -/
def dialogStore (names : List String) : Files :=
  names.foldl (fun files name => (files.write (Path.join "dialog" name) "\x7b\x7d").1)
    (Files.makeDirs ∅ "dialog").1

theorem wellFormed_dialogStore (names : List String) : (dialogStore names).WellFormed := by
  unfold dialogStore
  have hstart : (Files.makeDirs ∅ "dialog").1.WellFormed := Files.wellFormed_empty.makeDirs "dialog"
  generalize (Files.makeDirs ∅ "dialog").1 = files at hstart
  induction names generalizing files with
  | nil => exact hstart
  | cons name rest ih => exact ih _ (hstart.write _ _)

theorem capital_file_with_small_twin :
    let files := dialogStore ["Mara.json", "Otto.json", "mara.json"]
    files.WellFormed ∧
      files.namesWith Files.dialogExtensions "dialog" =
        .ok ["Mara.json", "Otto.json", "mara.json"] ∧
      (ContentReport.dialog files "dialog").errors = [] ∧
      ((ofDirectory "dialog" 1).table files "Mara").2.isOk = true ∧
      ¬((ofDirectory "dialog" 1).table files "Otto").2.isOk = true := by
  intro files
  have hfiles : files.WellFormed := wellFormed_dialogStore _
  have hnames : files.namesWith Files.dialogExtensions "dialog" =
      .ok ["Mara.json", "Otto.json", "mara.json"] := rfl
  have hclean : (ContentReport.dialog files "dialog").errors = [] := rfl
  have hdirectory : (ofDirectory "dialog" 1).directory = "dialog" := rfl
  have hstem := (isOk_table_stem_iff hfiles hnames hclean hdirectory).2
  refine ⟨hfiles, hnames, hclean, ?_, fun h => ?_⟩
  · exact (hstem "Mara.json" (by decide)).mpr (.inr (by decide))
  · exact absurd ((hstem "Otto.json" (by decide)).mp h) (by decide)

/-- Nothing is wrong with the directory, and yet its only file cannot be loaded. -/
theorem capital_file_is_missing :
    let files := dialogStore ["Mara.json"]
    files.WellFormed ∧
      files.namesWith Files.dialogExtensions "dialog" = .ok ["Mara.json"] ∧
      ContentReport.dialog files "dialog" = ⟨1, 1, 0, []⟩ ∧
      ((ofDirectory "dialog" 1).table files (Path.stem "Mara.json")).2 =
        .error (.missing "Mara") :=
  ⟨wellFormed_dialogStore _, rfl, rfl, rfl⟩

end DialogLibrary

end StoryEngine
