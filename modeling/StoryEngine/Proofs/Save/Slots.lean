import StoryEngine.Proofs.Save.Text
import StoryEngine.Proofs.Storage.Directories
import StoryEngine.Save.Store

/-! # A slot and what it held before

A slot is kept in two files. Each save moves the text of the first to the second, so that the slot
reads back, and what it held before is there when the first file is not. The files of two slots are
four different ones.
-/

namespace StoryEngine

set_option autoImplicit false

/-- A save that is written in a way that it can be read back. -/
structure SaveState.Storable (s : SaveState) : Prop where
  fits : s.Fits
  version : s.version ≤ SaveState.currentVersion

namespace SaveStore

variable {files after made : Files} {store : SaveStore} {slot other path : String} {s : SaveState}

theorem slotPath_eq (store : SaveStore) (slot : String) :
    store.slotPath slot = Path.join store.directory slot ++ ".json" :=
  Path.join_append _ _ (by decide)

theorem backupPath_eq (store : SaveStore) (slot : String) :
    store.backupPath slot = Path.join store.directory slot ++ ".json.bak" :=
  Path.join_append _ _ (by decide)

theorem siblings_slot_backup (store : SaveStore) (slot : String) :
    Path.Siblings (store.slotPath slot) (store.backupPath slot) := by
  rw [slotPath_eq, backupPath_eq]
  exact Path.siblings_append _ (by decide) (by decide) (by decide) (by decide) (by decide)

/-- What the name of a file adds to that of its slot. -/
def endings : List String := [".json", ".json.bak"]

theorem slot_ending_inj {ending otherEnding : String} (hending : ending ∈ endings)
    (hother : otherEnding ∈ endings) (h : slot ++ ending = other ++ otherEnding) :
    slot = other := by
  have hend := congrArg (fun name : String => name.toList.getLast?) h
  simp only [endings, List.mem_cons, List.not_mem_nil, or_false] at hending hother
  rcases hending with rfl | rfl <;> rcases hother with rfl | rfl
  · exact String.append_left_inj _ |>.mp h
  · simp at hend
  · simp at hend
  · exact String.append_left_inj _ |>.mp h

theorem name_file (hslot : Path.Plain slot) {ending : String} (hending : ending ∈ endings) :
    Path.Plain (slot ++ ending) ∧ 3 ≤ (slot ++ ending).length := by
  have hplain : ∀ ending ∈ endings, Path.Plain ending := by decide
  have hlength : ∀ ending ∈ endings, 3 ≤ ending.length := by decide
  refine ⟨Path.plain_append.mpr ⟨hslot, hplain ending hending⟩, ?_⟩
  rw [String.length_append]
  exact Nat.le_add_left_of_le (hlength ending hending)

theorem proper_file (hslot : Path.Plain slot) {ending : String} (hending : ending ∈ endings) :
    Path.Proper (slot ++ ending) :=
  Path.proper_of_length (name_file hslot hending).1 (name_file hslot hending).2

theorem siblings_of_ne (directory : String) (hslot : Path.Plain slot) (hother : Path.Plain other)
    (hne : slot ≠ other) {ending otherEnding : String} (hending : ending ∈ endings)
    (hotherEnding : otherEnding ∈ endings) :
    Path.Siblings (Path.join directory (slot ++ ending))
      (Path.join directory (other ++ otherEnding)) := by
  have hjoin {name : String} (hname : Path.Plain name) :
      Path.join directory name = Path.join directory "" ++ name := by
    rw [← Path.join_append directory "" hname, String.empty_append]
  obtain ⟨hfile, hlength⟩ := name_file hslot hending
  obtain ⟨hotherFile, hotherLength⟩ := name_file hother hotherEnding
  rw [hjoin hfile, hjoin hotherFile]
  exact Path.siblings_append _ hfile hotherFile hlength hotherLength
    fun heq => hne (slot_ending_inj hending hotherEnding heq)

def Holds (files : Files) (path : String) (s : SaveState) : Prop :=
  ∃ content, files.entry path = .ok (.text content) ∧ SaveState.parse? content = some s ∧
    s.version ≤ SaveState.currentVersion

theorem holds_congr {other : String} (h : after.entry other = files.entry path) :
    Holds after other s ↔ Holds files path s := by
  rw [Holds, Holds, h]

theorem holds_of_render (hs : s.Storable) (h : files.entry path = .ok (.text s.render)) :
    Holds files path s := by
  refine ⟨s.render, h, ?_, hs.version⟩
  rw [SaveState.parse?, SaveState.render, Json.parse?_indented s.isPlain_toJson, Option.bind_some,
    SaveState.ofJson?_toJson hs.fits]

theorem not_holds_of_broken {content : String} (hcontent : SaveState.parse? content = none)
    (h : files.entry path = .ok (.text content)) : ¬Holds files path s := by
  rintro ⟨found, hfound, hparse, -⟩
  cases h.symm.trans hfound
  cases hcontent.symm.trans hparse

theorem not_holds_of_error {fault : FileFault} (h : files.entry path = .error fault) :
    ¬Holds files path s := by
  rintro ⟨found, hfound, -⟩
  cases h.symm.trans hfound

theorem read_eq_some_iff : read files path = .ok (some s) ↔ Holds files path s := by
  unfold read
  constructor
  · intro h
    split at h
    · cases h
    · cases h
    · next content hcontent =>
      split at h
      · cases h
      · next found hfound =>
        split at h
        · next hversion =>
          cases h
          exact ⟨content, Files.readText_eq_ok_iff.mp hcontent, hfound, hversion⟩
        · cases h
  · rintro ⟨content, hcontent, hparse, hversion⟩
    rw [Files.readText_eq_ok_iff.mpr hcontent]
    simp only [hparse, hversion, if_true]

theorem load_eq_some_iff : load files store slot = .ok (some s) ↔
    Holds files (store.slotPath slot) s ∨ (∀ found, ¬Holds files (store.slotPath slot) found) ∧
      Holds files (store.backupPath slot) s := by
  simp only [← read_eq_some_iff]
  unfold load
  cases read files (store.slotPath slot) with
  | error error =>
    cases read files (store.backupPath slot) with
    | error => simp
    | ok found => cases found <;> simp
  | ok found => cases found <;> simp

theorem read_congr (h : after.entry path = files.entry path) :
    read after path = read files path := by
  rw [read, read, Files.readText, Files.readText, h]

theorem load_congr (hslot : after.entry (store.slotPath slot) = files.entry (store.slotPath slot))
    (hbackup : after.entry (store.backupPath slot) = files.entry (store.backupPath slot)) :
    load after store slot = load files store slot := by
  unfold load
  rw [read_congr hslot, read_congr hbackup]

/-- A slot that can be saved: its directory can be made, and no other directory is in the way. -/
def Open (files : Files) (store : SaveStore) (slot : String) : Prop :=
  ∃ made, files.makeDirs store.directory = (made, .ok ()) ∧
    made.TakesFile (store.slotPath slot) ∧ made.TakesFile (store.backupPath slot)

theorem open_of_isDirectory (hstore : store.directory ≠ "") (hslot : Path.Plain slot)
    (hmade : files.makeDirs store.directory = (made, .ok ()))
    (hfile : made.isDirectory (store.slotPath slot) = false)
    (hbackup : made.isDirectory (store.backupPath slot) = false) : Open files store slot := by
  obtain ⟨here, hhere, hfolder⟩ := Files.locate_of_makeDirs hstore hmade
  have hlocate {ending : String} (hending : ending ∈ endings) :=
    Files.locate_join hhere hfolder (proper_file hslot hending)
  exact ⟨made, hmade, Files.takesFile_of_isDirectory (hlocate (by decide)) hfile,
    Files.takesFile_of_isDirectory (hlocate (by decide)) hbackup⟩

/-- What a save leaves of the files that were there once its directory was made. -/
structure Saved (store : SaveStore) (slot : String) (s : SaveState) (made after : Files) :
    Prop where
  folders : made.KeepsFolders after
  takesFile : ∀ {path}, made.TakesFile path → after.TakesFile path
  current : after.entry (store.slotPath slot) = .ok (.text s.render)
  previous : ∀ {file}, made.entry (store.slotPath slot) = .ok file →
    after.entry (store.backupPath slot) = .ok file
  others : ∀ {path}, Path.Siblings (store.slotPath slot) path →
    Path.Siblings (store.backupPath slot) path → after.entry path = made.entry path

theorem changes_of_missing {fault : FileFault}
    (h : files.entry (store.slotPath slot) = .error fault) (s : SaveState) :
    changes files store slot s = [.write (store.slotPath slot) s.render] := by
  rw [changes, Files.isPresent, h]
  rfl

theorem changes_of_present {file : FileEntry} (h : files.entry (store.slotPath slot) = .ok file)
    (s : SaveState) : changes files store slot s =
      [.copy (store.slotPath slot) (store.backupPath slot),
        .write (store.slotPath slot) s.render] := by
  rw [changes, Files.isPresent, h]
  rfl

theorem save_of_performAll (hmade : files.makeDirs store.directory = (made, .ok ()))
    (h : made.performAll (changes made store slot s) = (after, .ok ())) :
    save files store slot s = (after, .ok ()) := by
  rw [save, hmade]
  dsimp only
  rw [h]

theorem saved_of_save (hmade : files.makeDirs store.directory = (made, .ok ()))
    (hslot : made.TakesFile (store.slotPath slot))
    (hbackup : made.TakesFile (store.backupPath slot)) (s : SaveState) :
    ∃ after, save files store slot s = (after, .ok ()) ∧ Saved store slot s made after := by
  have hsiblings := siblings_slot_backup store slot
  cases hentry : made.entry (store.slotPath slot) with
  | error fault =>
    obtain ⟨after, hwrite, hcurrent⟩ := Files.write_of_takesFile hslot s.render
    have htouches := Files.touches_of_perform hwrite
    refine ⟨after, ?_, htouches.keepsFolders, htouches.takesFile, hcurrent, ?_,
      fun hother _ => htouches.entry_sibling hother⟩
    · refine save_of_performAll hmade ?_
      rw [changes_of_missing hentry, Files.performAll_cons hwrite, Files.performAll]
    · intro file hfile
      cases hentry.symm.trans hfile
  | ok file =>
    obtain ⟨copied, hcopy, hprevious⟩ :=
      Files.copy_of_takesFile hentry (hslot.ne_directory hentry) hbackup
    have hfirst := Files.touches_of_perform hcopy
    obtain ⟨after, hwrite, hcurrent⟩ :=
      Files.write_of_takesFile (hfirst.takesFile hslot) s.render
    have hlast := Files.touches_of_perform hwrite
    refine ⟨after, ?_, hfirst.keepsFolders.trans hlast.keepsFolders,
      fun hpath => hlast.takesFile (hfirst.takesFile hpath), hcurrent, ?_, ?_⟩
    · refine save_of_performAll hmade ?_
      rw [changes_of_present hentry, Files.performAll_cons hcopy, Files.performAll_cons hwrite,
        Files.performAll]
    · intro found hfound
      cases hentry.symm.trans hfound
      exact (hlast.entry_sibling hsiblings).trans hprevious
    · intro path hslotPath hbackupPath
      exact (hlast.entry_sibling hslotPath).trans (hfirst.entry_sibling hbackupPath)

theorem Saved.load (h : Saved store slot s made after) (hs : s.Storable) :
    SaveStore.load after store slot = .ok (some s) :=
  load_eq_some_iff.mpr (.inl (holds_of_render hs h.current))

/-- A save leaves the other slots alone. -/
theorem Saved.load_other (h : Saved store slot s made after) (hslot : Path.Plain slot)
    (hother : Path.Plain other) (hne : slot ≠ other) :
    SaveStore.load after store other = SaveStore.load made store other := by
  have hbeside {ending otherEnding : String} (hending : ending ∈ endings)
      (hotherEnding : otherEnding ∈ endings) :=
    siblings_of_ne store.directory hslot hother hne hending hotherEnding
  exact load_congr (h.others (hbeside (by decide) (by decide)) (hbeside (by decide) (by decide)))
    (h.others (hbeside (by decide) (by decide)) (hbeside (by decide) (by decide)))

theorem load_makeDirs (hrooted : files.Rooted) (hdown : files.GoesDown store.directory)
    (hmade : files.makeDirs store.directory = (made, .ok ())) (hslot : Path.Plain slot) :
    SaveStore.load made store slot = SaveStore.load files store slot := by
  have hentry {ending : String} (hending : ending ∈ endings) :=
    Files.entry_join_makeDirs hrooted hdown hmade (proper_file hslot hending)
  exact load_congr (hentry (by decide)) (hentry (by decide))

/-- Also a save that fails leaves every entry in a directory. -/
theorem rooted_save (h : files.Rooted) (store : SaveStore) (slot : String) (s : SaveState) :
    (save files store slot s).1.Rooted := by
  have hmade := h.makeDirs store.directory
  unfold save
  split
  · next heq =>
    rw [heq] at hmade
    exact hmade
  · next made heq =>
    rw [heq] at hmade
    have hafter := hmade.performAll (changes made store slot s)
    split
    · next hperform =>
      rw [hperform] at hafter
      exact hafter
    · next hperform =>
      rw [hperform] at hafter
      exact hafter

/-- When the first file of a slot holds no save, the second one is read. -/
theorem Saved.load_previous {before : SaveState} (h : Saved store slot s made after)
    (hbefore : before.Storable)
    (hmade : made.entry (store.slotPath slot) = .ok (.text before.render)) {later : Files}
    (htouches : Files.Touches after (store.slotPath slot) later)
    (hlater : ∀ found, ¬Holds later (store.slotPath slot) found) :
    SaveStore.load later store slot = .ok (some before) := by
  have hbackup : later.entry (store.backupPath slot) = .ok (.text before.render) :=
    (htouches.entry_sibling (siblings_slot_backup store slot)).trans (h.previous hmade)
  exact load_eq_some_iff.mpr (.inr ⟨hlater, holds_of_render hbefore hbackup⟩)

/-- A slot that is saved twice holds the second save. The first one is there when the file of the
slot is taken away or spoilt, and the other slots hold what they held. -/
theorem load_save_save (hrooted : files.Rooted) (hdown : files.GoesDown store.directory)
    (hopen : Open files store slot) (hslot : Path.Plain slot) {first second : SaveState}
    (hfirst : first.Storable) (hsecond : second.Storable) :
    ∃ once twice, save files store slot first = (once, .ok ()) ∧
      save once store slot second = (twice, .ok ()) ∧
      load twice store slot = .ok (some second) ∧
      (∃ after, twice.remove (store.slotPath slot) = (after, .ok ()) ∧
        load after store slot = .ok (some first)) ∧
      (∀ content, SaveState.parse? content = none →
        ∃ after, twice.write (store.slotPath slot) content = (after, .ok ()) ∧
          load after store slot = .ok (some first)) ∧
      ∀ other, Path.Plain other → slot ≠ other →
        load once store other = load files store other ∧
          load twice store other = load files store other := by
  obtain ⟨made, hmade, hplace, hbackup⟩ := hopen
  obtain ⟨once, honce, hsaved⟩ := saved_of_save hmade hplace hbackup first
  obtain ⟨twice, htwice, hagain⟩ := saved_of_save (Files.makeDirs_again hmade hsaved.folders)
    (hsaved.takesFile hplace) (hsaved.takesFile hbackup) second
  refine ⟨once, twice, honce, htwice, hagain.load hsecond, ?_, ?_, ?_⟩
  · obtain ⟨after, hremove, hgone⟩ := Files.remove_of_entry hagain.current nofun
    have htouches := Files.touches_remove twice (store.slotPath slot)
    rw [hremove] at htouches
    exact ⟨after, hremove, hagain.load_previous hfirst hsaved.current htouches
      fun _ => not_holds_of_error hgone⟩
  · intro content hcontent
    obtain ⟨after, hwrite, hspoilt⟩ := Files.write_of_takesFile
      (hagain.takesFile (hsaved.takesFile hplace)) content
    exact ⟨after, hwrite, hagain.load_previous hfirst hsaved.current
      (Files.touches_of_perform hwrite) fun _ => not_holds_of_broken hcontent hspoilt⟩
  · intro other hother hne
    have hmadeOther := load_makeDirs hrooted hdown hmade hother
    have honceOther := hsaved.load_other hslot hother hne
    have htwiceOther := hagain.load_other hslot hother hne
    exact ⟨honceOther.trans hmadeOther, htwiceOther.trans (honceOther.trans hmadeOther)⟩

def spring : SaveState := ⟨1, .ofKeys ["met_miller"], ∅, ∅, ⟨[10], 0, 10⟩⟩

def autumn : SaveState := ⟨1, .ofKeys ["met_miller", "mill_sold"], ∅, ∅, ⟨[10, 15], 10, 25⟩⟩

theorem storable_spring : spring.Storable :=
  ⟨⟨by decide, by decide, by decide, by decide⟩, by decide⟩

theorem storable_autumn : autumn.Storable :=
  ⟨⟨by decide, by decide, by decide, by decide⟩, by decide⟩

theorem slot_saved_in_spring_and_autumn :
    let store : SaveStore := ⟨"game/save"⟩
    ∃ once twice, save ∅ store "slot1" spring = (once, .ok ()) ∧
      save once store "slot1" autumn = (twice, .ok ()) ∧
      load twice store "slot1" = .ok (some autumn) ∧
      (∃ after, twice.remove (store.slotPath "slot1") = (after, .ok ()) ∧
        load after store "slot1" = .ok (some spring)) ∧
      (∃ after, twice.write (store.slotPath "slot1") "\x7b broken" = (after, .ok ()) ∧
        load after store "slot1" = .ok (some spring)) ∧
      load twice store "slot2" = .ok none := by
  intro store
  have hdown : Files.GoesDown ∅ store.directory :=
    ⟨[], ["game", "save"], [], by decide, by decide, congrArg Except.ok (by decide)⟩
  have hmade : Files.makeDirs ∅ "game/save" =
      (⟨[(["save", "game"], .directory), (["game"], .directory)]⟩, .ok ()) := rfl
  have hopen : Open ∅ store "slot1" :=
    open_of_isDirectory (by decide) (by decide) hmade (by decide) (by decide)
  have hmissing : load ∅ ⟨"game/save"⟩ "slot2" = .ok none := rfl
  obtain ⟨once, twice, honce, htwice, hload, hgone, hbroken, hother⟩ :=
    load_save_save .empty hdown hopen (by decide) storable_spring storable_autumn
  exact ⟨once, twice, honce, htwice, hload, hgone, hbroken "\x7b broken" rfl,
    (hother "slot2" (by decide) (by decide)).2.trans hmissing⟩

end SaveStore

end StoryEngine
