import StoryEngine.Proofs.Storage.Lookup

/-! # Files side by side

An operation changes one file. Another file of the same directory is afterwards what it was before,
so that the files of a directory are a map from names to contents.
-/

namespace StoryEngine

set_option autoImplicit false

namespace Text

/-- What is added at the end without a separator goes to the last piece. -/
theorem splitOn_append_of_not_mem {sep : Char} {s more last : List Char} {front : List (List Char)}
    (hmore : sep ∉ more) (h : s.splitOn sep = front ++ [last]) :
    (s ++ more).splitOn sep = front ++ [last ++ more] := by
  induction s generalizing front last with
  | nil =>
    rw [List.splitOn_nil] at h
    cases front with
    | nil =>
      cases h
      exact List.splitOn_eq_singleton hmore
    | cons piece front => cases front <;> cases h
  | cons c rest ih =>
    rw [List.splitOn_cons_eq_if_modifyHead] at h
    rw [List.cons_append, List.splitOn_cons_eq_if_modifyHead]
    split at h
    · next hc =>
      rw [if_pos hc]
      cases front with
      | nil => exact absurd (List.cons.inj h).2 (List.splitOn_ne_nil sep rest)
      | cons piece front =>
        obtain ⟨rfl, hrest⟩ := List.cons.inj h
        rw [ih hrest]
        rfl
    · next hc =>
      rw [if_neg hc]
      cases hpieces : rest.splitOn sep with
      | nil => exact absurd hpieces (List.splitOn_ne_nil sep rest)
      | cons first others =>
        rw [hpieces] at h
        cases front with
        | nil =>
          obtain ⟨rfl, rfl⟩ := List.cons.inj h
          have honly : rest.splitOn sep = [] ++ [first] := hpieces
          rw [ih honly]
          rfl
        | cons piece front =>
          obtain ⟨rfl, rfl⟩ := List.cons.inj h
          have hmany : rest.splitOn sep = (first :: front) ++ [last] := hpieces
          rw [ih hmany]
          rfl

end Text

namespace Path

theorem names_append {path suffix last : String} {front : List String} (hsuffix : Plain suffix)
    (h : names path = front ++ [last]) : names (path ++ suffix) = front ++ [last ++ suffix] := by
  rw [names_eq, List.map_eq_append_iff] at h
  obtain ⟨before, final, hcut, rfl, hfinal⟩ := h
  obtain ⟨piece, rfl, rfl⟩ := List.map_eq_singleton_iff.mp hfinal
  rw [names_eq, String.toList_append, Text.splitOn_append_of_not_mem hsuffix hcut, List.map_append,
    List.map_singleton, String.ofList_append, String.ofList_toList]

theorem join_append (directory name : String) {suffix : String} (hsuffix : Plain suffix) :
    join directory (name ++ suffix) = join directory name ++ suffix := by
  have habsolute : isAbsolute (name ++ suffix) = isAbsolute name := by
    unfold isAbsolute
    rw [String.toList_append]
    cases name.toList with
    | nil => exact isAbsolute_of_plain hsuffix
    | cons c rest => rfl
  unfold join
  rw [habsolute]
  split
  · rfl
  · split <;> simp [String.append_assoc]

/-- Two names in one directory. -/
def Siblings (path other : String) : Prop :=
  ∃ front name otherName, names path = front ++ [name] ∧ names other = front ++ [otherName] ∧
    Proper name ∧ Proper otherName ∧ name ≠ otherName

theorem Siblings.symm {path other : String} (h : Siblings path other) : Siblings other path := by
  obtain ⟨front, name, otherName, hpath, hother, hname, hotherName, hne⟩ := h
  exact ⟨front, otherName, name, hother, hpath, hotherName, hname, hne.symm⟩

theorem proper_of_length {name : String} (hplain : Plain name) (hlength : 3 ≤ name.length) :
    Proper name := by
  refine ⟨hplain, fun hmem => ?_⟩
  have hshort : ∀ short ∈ ["", ".", ".."], short.length ≤ 2 := by decide
  have hname := hshort name hmem
  omega

/-- What is added to the end of a path belongs to its last name. -/
theorem siblings_append (path : String) {a b : String} (ha : Plain a) (hb : Plain b)
    (halength : 3 ≤ a.length) (hblength : 3 ≤ b.length) (hne : a ≠ b) :
    Siblings (path ++ a) (path ++ b) := by
  obtain ⟨front, last, hpath⟩ :=
    (List.eq_nil_or_concat (names path)).resolve_left (names_ne_nil path)
  rw [List.concat_eq_append] at hpath
  have hlast : Plain last := plain_of_mem_names (hpath ▸ List.mem_concat_self)
  refine ⟨front, last ++ a, last ++ b, names_append ha hpath, names_append hb hpath,
    proper_of_length (plain_append.mpr ⟨hlast, ha⟩) ?_,
    proper_of_length (plain_append.mpr ⟨hlast, hb⟩) ?_,
    fun heq => hne (String.append_right_inj _ |>.mp heq)⟩
  · rw [String.length_append]; omega
  · rw [String.length_append]; omega

end Path

namespace Files

variable {files after : Files}

theorem find?_put_of_ne {here there : Location} (h : there ≠ here) (entry : FileEntry) :
    (files.put here entry).find? there = files.find? there := by
  by_cases htop : there = [] ∨ there = [""]
  · rw [find?, if_pos htop, find?, if_pos htop]
  · rw [find?_put files here there entry (not_or.mp htop), if_neg h]

theorem find?_clear_of_ne {here there : Location} (h : there ≠ here) :
    (files.clear here).find? there = files.find? there := by
  by_cases htop : there = [] ∨ there = [""]
  · rw [find?, if_pos htop, find?, if_pos htop]
  · rw [find?_clear files here there (not_or.mp htop), if_neg h]

theorem not_top_of_find?_ne {here : Location} (h : files.find? here ≠ some .directory) :
    here ≠ [] ∧ here ≠ [""] := by
  refine not_or.mp fun htop => h ?_
  rw [find?, if_pos htop]

/-- Every directory of the first store is one of the second. -/
def KeepsFolders (files after : Files) : Prop :=
  ∀ here, files.find? here = some .directory → after.find? here = some .directory

theorem KeepsFolders.refl (files : Files) : KeepsFolders files files := fun _ h => h

theorem KeepsFolders.trans {last : Files} (h : KeepsFolders files after)
    (hlast : KeepsFolders after last) : KeepsFolders files last :=
  fun here hhere => hlast here (h here hhere)

theorem keepsFolders_put {here : Location} (h : files.find? here ≠ some .directory)
    (entry : FileEntry) : KeepsFolders files (files.put here entry) := by
  intro there hthere
  rwa [find?_put_of_ne]
  rintro rfl
  exact h hthere

theorem keepsFolders_clear {here : Location} (h : files.find? here ≠ some .directory) :
    KeepsFolders files (files.clear here) := by
  intro there hthere
  rwa [find?_clear_of_ne]
  rintro rfl
  exact h hthere

theorem KeepsFolders.descend (h : KeepsFolders files after) {here there : Location}
    {names : List String} (hthere : files.descend here names = .ok there) :
    after.descend here names = .ok there := by
  induction names generalizing here with
  | nil => exact hthere
  | cons name rest ih =>
    rw [Files.descend] at hthere ⊢
    split at hthere
    · next hhere =>
      rw [h here hhere]
      exact ih hthere
    · cases hthere
    · cases hthere

theorem KeepsFolders.locate (h : KeepsFolders files after) {path : String} {here : Location}
    (hhere : files.locate path = .ok here) : after.locate path = .ok here := by
  unfold Files.locate at *
  split at hhere
  · cases hhere
  · next hpath =>
    rw [if_neg hpath]
    exact h.descend hhere

/-- Where the names in front of the last one lead does not depend on the last one. -/
theorem exists_startOf (front : List String) : ∃ start way, ∀ {path name},
    Path.names path = front ++ [name] → name ≠ "" → startOf path = (start, way ++ [name]) := by
  cases front with
  | nil =>
    refine ⟨[], [], fun {path name} hpath hname => ?_⟩
    rw [startOf, hpath, List.nil_append]
    split
    · next heq => exact absurd (List.cons.inj heq).1 hname
    · rfl
  | cons first front =>
    by_cases hfirst : first = ""
    · subst hfirst
      exact ⟨[""], front, fun hpath _ => by rw [startOf, hpath]; rfl⟩
    · refine ⟨[], first :: front, fun {path name} hpath _ => ?_⟩
      rw [startOf, hpath, List.cons_append]
      split
      · next heq => exact absurd (List.cons.inj heq).1 hfirst
      · rfl

theorem exists_locate (front : List String) : ∃ start way, ∀ {files : Files} {path name here},
    Path.names path = front ++ [name] → Path.Proper name → (files.locate path = .ok here ↔
      ∃ up, files.descend start way = .ok up ∧ files.find? up = some .directory ∧
        name :: up = here) := by
  obtain ⟨start, way, hstart⟩ := exists_startOf front
  refine ⟨start, way, fun {files path name here} hpath hname => ?_⟩
  have hnotEmpty : path ≠ "" := by
    rintro rfl
    have hlast : name ∈ Path.names "" := hpath ▸ List.mem_concat_self
    rw [Path.names_of_plain (by decide)] at hlast
    exact hname.notHere (List.mem_singleton.mp hlast ▸ List.mem_cons_self)
  have hname' : name ≠ "" := fun heq => hname.notHere (heq ▸ List.mem_cons_self)
  rw [locate, if_neg hnotEmpty, hstart hpath hname', descend_append, bind_eq_ok_iff]
  refine exists_congr fun up => and_congr_right fun _ => ?_
  rw [descend_singleton_eq_ok_iff, up.step_of_proper hname]

/-- Where one of two siblings is found, the other is looked for at another place. -/
theorem locate_of_siblings {path other : String} (hsiblings : Path.Siblings path other)
    {here : Location} (hhere : files.locate path = .ok here) :
    ∃ there, there ≠ here ∧ files.locate other = .ok there := by
  obtain ⟨front, name, otherName, hpath, hother, hname, hotherName, hne⟩ := hsiblings
  obtain ⟨start, way, hlocate⟩ := exists_locate front
  obtain ⟨up, hup, hdirectory, rfl⟩ := (hlocate hpath hname).mp hhere
  exact ⟨otherName :: up, fun heq => hne (List.cons.inj heq).1.symm,
    (hlocate hother hotherName).mpr ⟨up, hup, hdirectory, rfl⟩⟩

theorem entry_of_locate {path : String} {here : Location} (h : files.locate path = .ok here) :
    files.entry path = (files.find? here).elim (.error .notFound) .ok := by
  rw [Files.entry, h]
  cases hentry : files.find? here with
  | none => simp only [hentry, bind, Except.bind, Option.elim_none]; rfl
  | some entry => simp only [hentry, bind, Except.bind, Option.elim_some]; rfl

/-- A path at which a file stands or can be put. -/
def TakesFile (files : Files) (path : String) : Prop :=
  ∃ here, files.locate path = .ok here ∧ files.find? here ≠ some .directory

theorem TakesFile.ne_directory {path : String} (h : files.TakesFile path) {entry : FileEntry}
    (hentry : files.entry path = .ok entry) : entry ≠ .directory := by
  obtain ⟨here, hhere, hfree⟩ := h
  obtain ⟨there, hthere, hfind⟩ := entry_eq_ok_iff.mp hentry
  cases hhere.symm.trans hthere
  exact fun heq => hfree (heq ▸ hfind)

theorem takesFile_of_isDirectory {path : String} {here : Location}
    (hhere : files.locate path = .ok here) (h : files.isDirectory path = false) :
    files.TakesFile path := by
  refine ⟨here, hhere, fun hfolder => ?_⟩
  rw [isDirectory, entry_eq_ok_iff.mpr ⟨here, hhere, hfolder⟩] at h
  cases h

/-- What a store can be after a change of the file at a path. -/
inductive Touches (files : Files) (path : String) : Files → Prop where
  | same : Touches files path files
  | put {here : Location} {file : FileEntry} (hhere : files.locate path = .ok here)
      (hfree : files.find? here ≠ some .directory) (hfile : file ≠ .directory) :
      Touches files path (files.put here file)
  | clear {here : Location} (hhere : files.locate path = .ok here)
      (hfree : files.find? here ≠ some .directory) : Touches files path (files.clear here)

namespace Touches

variable {path : String}

theorem keepsFolders (h : Touches files path after) : KeepsFolders files after := by
  cases h with
  | same => exact .refl files
  | put _ hfree _ => exact keepsFolders_put hfree _
  | clear _ hfree => exact keepsFolders_clear hfree

theorem find?_ne_directory (h : Touches files path after) {there : Location}
    (hthere : files.find? there ≠ some .directory) : after.find? there ≠ some .directory := by
  have hnotTop := not_top_of_find?_ne hthere
  cases h with
  | same => exact hthere
  | put _ _ hfile =>
    rw [find?_put files _ there _ hnotTop]
    split
    · exact fun heq => hfile (Option.some.inj heq)
    · exact hthere
  | clear _ _ =>
    rw [find?_clear files _ there hnotTop]
    split
    · exact nofun
    · exact hthere

theorem takesFile (h : Touches files path after) {other : String} (hother : files.TakesFile other) :
    after.TakesFile other := by
  obtain ⟨there, hthere, hfree⟩ := hother
  exact ⟨there, h.keepsFolders.locate hthere, h.find?_ne_directory hfree⟩

theorem entry_sibling (h : Touches files path after) {other : String}
    (hsiblings : Path.Siblings path other) : after.entry other = files.entry other := by
  have hkeeps := h.keepsFolders
  cases h with
  | same => rfl
  | put hhere hfree _ =>
    obtain ⟨there, hne, hthere⟩ := locate_of_siblings hsiblings hhere
    rw [entry_of_locate hthere, entry_of_locate (hkeeps.locate hthere), find?_put_of_ne hne]
  | clear hhere hfree =>
    obtain ⟨there, hne, hthere⟩ := locate_of_siblings hsiblings hhere
    rw [entry_of_locate hthere, entry_of_locate (hkeeps.locate hthere), find?_clear_of_ne hne]

end Touches

theorem touches_place (files : Files) (path : String) {file : FileEntry}
    (hfile : file ≠ .directory) : Touches files path (files.place path file).1 := by
  unfold place
  split
  · exact .same
  · next here hhere =>
    split
    · exact .same
    · next hfree => exact .put hhere hfree hfile

theorem touches_write (files : Files) (path content : String) :
    Touches files path (files.write path content).1 := touches_place files path nofun

theorem touches_copy (files : Files) (source target : String) :
    Touches files target (files.copy source target).1 := by
  unfold copy
  split
  · exact .same
  · exact .same
  · next file hfile _ => exact touches_place files target hfile

theorem touches_perform (files : Files) (change : Change) :
    Touches files change.target (files.perform change).1 := by
  cases change with
  | copy source target => exact touches_copy files source target
  | write path content => exact touches_write files path content

theorem touches_of_perform {change : Change} {outcome : Except FileFault Unit}
    (h : files.perform change = (after, outcome)) : Touches files change.target after := by
  have htouches := touches_perform files change
  rwa [h] at htouches

theorem touches_remove (files : Files) (path : String) :
    Touches files path (files.remove path).1 := by
  unfold remove
  split
  · exact .same
  · next here hhere =>
    split
    · exact .same
    · exact .same
    · next entry hentry hfind =>
      exact .clear hhere fun heq => hentry (Option.some.inj (hfind.symm.trans heq))

theorem place_of_takesFile {path : String} (h : files.TakesFile path) (file : FileEntry) :
    ∃ after, files.place path file = (after, .ok ()) ∧ after.entry path = .ok file := by
  obtain ⟨here, hhere, hfree⟩ := h
  refine ⟨files.put here file, by rw [place, hhere]; exact if_neg hfree, ?_⟩
  rw [entry_of_locate ((keepsFolders_put hfree file).locate hhere),
    find?_put files here here file (not_top_of_find?_ne hfree), if_pos rfl]
  rfl

theorem takesFile_of_place {path : String} {file : FileEntry}
    (h : files.place path file = (after, .ok ())) : files.TakesFile path := by
  unfold place at h
  split at h
  · cases h
  · next here hhere =>
    split at h
    · cases h
    · next hfree => exact ⟨here, hhere, hfree⟩

theorem entry_of_place {path : String} {file : FileEntry}
    (h : files.place path file = (after, .ok ())) : after.entry path = .ok file := by
  obtain ⟨placed, hplaced, hentry⟩ := place_of_takesFile (takesFile_of_place h) file
  cases h.symm.trans hplaced
  exact hentry

theorem copy_eq_place {source : String} {file : FileEntry} (h : files.entry source = .ok file)
    (hfile : file ≠ .directory) (target : String) :
    files.copy source target = files.place target file := by
  rw [copy, h]
  cases file with
  | text content => rfl
  | binary => rfl
  | directory => exact absurd rfl hfile

theorem write_of_takesFile {path : String} (h : files.TakesFile path) (content : String) :
    ∃ after, files.perform (.write path content) = (after, .ok ()) ∧
      after.entry path = .ok (.text content) := place_of_takesFile h (.text content)

theorem copy_of_takesFile {source target : String} {file : FileEntry}
    (hsource : files.entry source = .ok file) (hfile : file ≠ .directory)
    (htarget : files.TakesFile target) :
    ∃ after, files.perform (.copy source target) = (after, .ok ()) ∧
      after.entry target = .ok file := by
  rw [perform, copy_eq_place hsource hfile]
  exact place_of_takesFile htarget file

theorem entry_of_copy {source target : String}
    (h : files.perform (.copy source target) = (after, .ok ())) :
    after.entry target = files.entry source := by
  rw [perform] at h
  cases hentry : files.entry source with
  | error fault =>
    rw [copy, hentry] at h
    cases h
  | ok file =>
    by_cases hfile : file = .directory
    · subst hfile
      rw [copy, hentry] at h
      cases h
    · exact entry_of_place ((copy_eq_place hentry hfile target).symm.trans h)

theorem performAll_cons {change : Change} (h : files.perform change = (after, .ok ()))
    (rest : List Change) : files.performAll (change :: rest) = after.performAll rest := by
  rw [performAll, h]

theorem remove_of_entry {path : String} {file : FileEntry} (h : files.entry path = .ok file)
    (hfile : file ≠ .directory) :
    ∃ after, files.remove path = (after, .ok ()) ∧ after.entry path = .error .notFound := by
  obtain ⟨here, hhere, hfind⟩ := entry_eq_ok_iff.mp h
  have hfree : files.find? here ≠ some .directory :=
    fun heq => hfile (Option.some.inj (hfind.symm.trans heq))
  refine ⟨files.clear here, ?_, ?_⟩
  · rw [remove, hhere]
    simp only [hfind]
  · rw [entry_of_locate ((keepsFolders_clear hfree).locate hhere),
      find?_clear files here here (not_top_of_find?_ne hfree), if_pos rfl, Option.elim_none]

end Files

end StoryEngine
