import StoryEngine.Proofs.Save.Slots

/-! # Saves that fail on the way

A change can fail for reasons that are not in the store, and may then leave a torn text behind. A
slot that held a save before is still read after a failed save, unless its first file was there and
could not be read: that file takes the place of the second one, which was the only one left.
-/

namespace StoryEngine

set_option autoImplicit false

namespace Files

/-- A change that may also fail for another reason than the store itself. It leaves its target as it
was then, or puts a torn text there. -/
inductive Attempt (torn : String → Prop) (files : Files) (change : Change) :
    Files → Except FileFault Unit → Prop where
  | performed {after : Files} {outcome : Except FileFault Unit}
      (h : files.perform change = (after, outcome)) : Attempt torn files change after outcome
  | untouched (fault : FileFault) : Attempt torn files change files (.error fault)
  | spoilt {after : Files} {content : String} (hcontent : torn content)
      (h : (files.write change.target content).1 = after) (fault : FileFault) :
      Attempt torn files change after (.error fault)

/-- Changes in order up to the first whose attempt fails. -/
inductive AttemptAll (torn : String → Prop) :
    Files → List Change → Files → Except (Change × FileFault) Unit → Prop where
  | done (files : Files) : AttemptAll torn files [] files (.ok ())
  | failed {files after : Files} {change : Change} {fault : FileFault} (rest : List Change)
      (h : Attempt torn files change after (.error fault)) :
      AttemptAll torn files (change :: rest) after (.error (change, fault))
  | next {files mid after : Files} {change : Change} {rest : List Change}
      {outcome : Except (Change × FileFault) Unit} (h : Attempt torn files change mid (.ok ()))
      (hrest : AttemptAll torn mid rest after outcome) :
      AttemptAll torn files (change :: rest) after outcome

variable {torn : String → Prop} {files after : Files} {change : Change}

theorem Attempt.touches {outcome : Except FileFault Unit}
    (h : Attempt torn files change after outcome) : Touches files change.target after := by
  cases h with
  | performed h => exact touches_of_perform h
  | untouched => exact .same
  | spoilt _ h => exact h ▸ touches_write files change.target _

theorem Attempt.perform (h : Attempt torn files change after (.ok ())) :
    files.perform change = (after, .ok ()) := by
  cases h with
  | performed h => exact h

theorem eq_of_place_error {path : String} {file : FileEntry} {fault : FileFault}
    (h : files.place path file = (after, .error fault)) : after = files := by
  unfold place at h
  split at h
  · cases h
    rfl
  · split at h <;> cases h
    rfl

theorem eq_of_perform_error {fault : FileFault}
    (h : files.perform change = (after, .error fault)) : after = files := by
  cases change with
  | copy source target =>
    rw [Files.perform, copy] at h
    split at h
    · cases h
      rfl
    · cases h
      rfl
    · exact eq_of_place_error h
  | write path content => exact eq_of_place_error h

theorem Attempt.failed {fault : FileFault} (h : Attempt torn files change after (.error fault)) :
    after = files ∨ ∃ content, torn content ∧ after.entry change.target = .ok (.text content) := by
  cases h with
  | performed h => exact .inl (eq_of_perform_error h)
  | untouched => exact .inl rfl
  | @spoilt _ content hcontent h =>
    subst h
    cases hwrite : files.write change.target content with
    | mk after outcome =>
      cases outcome with
      | error fault => exact .inl (eq_of_place_error hwrite)
      | ok => exact .inr ⟨content, hcontent, entry_of_place hwrite⟩

/-- What a store does of itself is an attempt. -/
theorem attemptAll_performAll (torn : String → Prop) (files : Files) (changes : List Change) :
    AttemptAll torn files changes (files.performAll changes).1 (files.performAll changes).2 := by
  induction changes generalizing files with
  | nil => exact .done files
  | cons change rest ih =>
    unfold performAll
    split
    · next h => exact .failed rest (.performed h)
    · next h => exact .next (.performed h) (ih _)

end Files

namespace SaveStore

variable {files made after : Files} {store : SaveStore} {slot path : String} {s t : SaveState}

def Broken (content : String) : Prop := SaveState.parse? content = none

/-- A text is there that is no save. -/
def Spoilt (files : Files) (path : String) : Prop :=
  ∃ content, Broken content ∧ files.entry path = .ok (.text content)

/-- What a save leaves and answers if its changes may fail. -/
inductive Attempt (files : Files) (store : SaveStore) (slot : String) (s : SaveState) :
    Files → Except SaveError Unit → Prop where
  | noDirectory {after : Files} {fault : FileFault}
      (h : files.makeDirs store.directory = (after, .error fault)) :
      Attempt files store slot s after (.error (.io store.directory fault))
  | failed {made after : Files} {change : Files.Change} {fault : FileFault}
      (hmade : files.makeDirs store.directory = (made, .ok ()))
      (h : Files.AttemptAll Broken made (changes made store slot s) after
        (.error (change, fault))) :
      Attempt files store slot s after (.error (.io change.target fault))
  | saved {made after : Files} (hmade : files.makeDirs store.directory = (made, .ok ()))
      (h : Files.AttemptAll Broken made (changes made store slot s) after (.ok ())) :
      Attempt files store slot s after (.ok ())

/-- A save that fails for no other reason than the store itself. -/
theorem attempt_save (files : Files) (store : SaveStore) (slot : String) (s : SaveState) :
    Attempt files store slot s (save files store slot s).1 (save files store slot s).2 := by
  unfold save
  split
  · next h => exact .noDirectory h
  · next made hmade =>
    have hchanges := Files.attemptAll_performAll Broken made (changes made store slot s)
    split
    · next h =>
      rw [h] at hchanges
      exact .failed hmade hchanges
    · next h =>
      rw [h] at hchanges
      exact .saved hmade hchanges

/-- What a failed save leaves of the two files of a slot. -/
inductive Left (store : SaveStore) (slot : String) (made after : Files) : Prop where
  /-- Nothing has changed. -/
  | same (hslot : after.entry (store.slotPath slot) = made.entry (store.slotPath slot))
      (hbackup : after.entry (store.backupPath slot) = made.entry (store.backupPath slot))
  /-- There was no first file, and a torn one is there now. -/
  | torn {fault : FileFault} (hmissing : made.entry (store.slotPath slot) = .error fault)
      (hslot : Spoilt after (store.slotPath slot))
      (hbackup : after.entry (store.backupPath slot) = made.entry (store.backupPath slot))
  /-- The second file is torn. -/
  | copying {file : FileEntry} (hfile : made.entry (store.slotPath slot) = .ok file)
      (hslot : after.entry (store.slotPath slot) = made.entry (store.slotPath slot))
      (hbackup : Spoilt after (store.backupPath slot))
  /-- The first file has taken the place of the second one. -/
  | writing {file : FileEntry} (hfile : made.entry (store.slotPath slot) = .ok file)
      (hslot : after.entry (store.slotPath slot) = made.entry (store.slotPath slot) ∨
        Spoilt after (store.slotPath slot))
      (hbackup : after.entry (store.backupPath slot) = made.entry (store.slotPath slot))

theorem left_of_failed {failure : Files.Change × FileFault}
    (h : Files.AttemptAll Broken made (changes made store slot s) after (.error failure)) :
    Left store slot made after := by
  have hsiblings := siblings_slot_backup store slot
  cases hentry : made.entry (store.slotPath slot) with
  | error fault =>
    rw [changes_of_missing hentry] at h
    cases h with
    | next _ hrest => cases hrest
    | failed _ hwrite =>
      rcases hwrite.failed with rfl | hspoilt
      · exact .same rfl rfl
      · exact .torn hentry hspoilt (hwrite.touches.entry_sibling hsiblings)
  | ok file =>
    rw [changes_of_present hentry] at h
    cases h with
    | failed _ hcopy =>
      rcases hcopy.failed with rfl | hspoilt
      · exact .same rfl rfl
      · exact .copying hentry (hcopy.touches.entry_sibling hsiblings.symm) hspoilt
    | next hcopy hrest =>
      have hslot := hcopy.touches.entry_sibling hsiblings.symm
      have hbackup := Files.entry_of_copy hcopy.perform
      cases hrest with
      | next _ hrest => cases hrest
      | failed _ hwrite =>
        refine .writing hentry ?_ ((hwrite.touches.entry_sibling hsiblings).trans hbackup)
        rcases hwrite.failed with rfl | hspoilt
        · exact .inl hslot
        · exact .inr hspoilt

theorem Spoilt.not_holds (h : Spoilt files path) : ¬Holds files path s := by
  obtain ⟨content, hcontent, hentry⟩ := h
  exact not_holds_of_broken hcontent hentry

/-- Making the directory leaves a slot that can be read as it is. -/
theorem load_of_makeDirs (h : load files store slot = .ok (some t)) :
    load (files.makeDirs store.directory).1 store slot = .ok (some t) := by
  have hadds := Files.addsFolders_makeDirs files store.directory
  generalize (files.makeDirs store.directory).1 = made at hadds
  have hplace {path : String} (hpath : Holds files path t) :
      ∃ here, files.locate path = .ok here := by
    obtain ⟨content, hcontent, -⟩ := hpath
    obtain ⟨here, hhere, -⟩ := Files.entry_eq_ok_iff.mp hcontent
    exact ⟨here, hhere⟩
  have hkept {path : String} (hpath : Holds files path t) : Holds made path t := by
    obtain ⟨here, hhere⟩ := hplace hpath
    rcases hadds.entry hhere with hsame | ⟨hmissing, -⟩
    · exact (holds_congr hsame).mpr hpath
    · exact absurd hpath (not_holds_of_error hmissing)
  refine load_eq_some_iff.mpr ((load_eq_some_iff.mp h).imp hkept fun ⟨hnone, hbackup⟩ => ?_)
  refine ⟨fun found hfound => ?_, hkept hbackup⟩
  -- Both files stand in one directory, so the first one is looked for where it was.
  obtain ⟨there, hthere⟩ := hplace hbackup
  obtain ⟨here, -, hhere⟩ :=
    Files.locate_of_siblings (siblings_slot_backup store slot).symm hthere
  rcases hadds.entry hhere with hsame | ⟨-, hfolder⟩
  · exact hnone found ((holds_congr hsame).mp hfound)
  · obtain ⟨content, hcontent, -⟩ := hfound
    cases hfolder.symm.trans hcontent

theorem read_missing (h : files.entry path = .error .notFound) : read files path = .ok none := by
  rw [read, Files.readText, h]
  rfl

theorem exists_holds_of_read {file : FileEntry} (hfile : files.entry path = .ok file)
    {found : Option SaveState} (h : read files path = .ok found) : ∃ s, Holds files path s := by
  cases found with
  | some s => exact ⟨s, read_eq_some_iff.mp h⟩
  | none =>
    cases file with
    | text content =>
      rw [read, Files.readText_eq_ok_iff.mpr hfile] at h
      dsimp only at h
      split at h
      · cases h
      · split at h <;> cases h
    | binary =>
      rw [read, Files.readText, hfile] at h
      cases h
    | directory =>
      rw [read, Files.readText, hfile] at h
      cases h

/-- A file that was read, or that there was not, leaves the other one to be read. -/
theorem load_of_left (hload : load made store slot = .ok (some t))
    (hleft : Left store slot made after)
    (h : (∃ found, read made (store.slotPath slot) = .ok found) ∨
      after.entry (store.backupPath slot) = made.entry (store.backupPath slot)) :
    load after store slot = .ok (some t) := by
  have hkept := load_eq_some_iff.mp hload
  cases hleft with
  | same hslot hbackup => exact (load_congr hslot hbackup).trans hload
  | torn hmissing hslot hbackup =>
    have hheld := (hkept.resolve_left (not_holds_of_error hmissing)).2
    exact load_eq_some_iff.mpr (.inr ⟨fun _ => hslot.not_holds, (holds_congr hbackup).mpr hheld⟩)
  | copying hfile hslot hbackup =>
    rcases hkept with hheld | ⟨hnone, hheld⟩
    · exact load_eq_some_iff.mpr (.inl ((holds_congr hslot).mpr hheld))
    · rcases h with ⟨found, hfound⟩ | hsame
      · obtain ⟨s, hs⟩ := exists_holds_of_read hfile hfound
        exact absurd hs (hnone s)
      · exact absurd ((holds_congr hsame).mpr hheld) hbackup.not_holds
  | writing hfile hslot hbackup =>
    rcases hkept with hheld | ⟨hnone, hheld⟩
    · have hmoved := (holds_congr hbackup).mpr hheld
      rcases hslot with hslot | hslot
      · exact load_eq_some_iff.mpr (.inl ((holds_congr hslot).mpr hheld))
      · exact load_eq_some_iff.mpr (.inr ⟨fun _ => hslot.not_holds, hmoved⟩)
    · rcases h with ⟨found, hfound⟩ | hsame
      · obtain ⟨s, hs⟩ := exists_holds_of_read hfile hfound
        exact absurd hs (hnone s)
      · exact absurd ((holds_congr hbackup).mp ((holds_congr hsame).mpr hheld)) (hnone t)

/-- A file that was there and could not be read has taken the last save with it. -/
theorem not_load_of_left (hleft : Left store slot made after)
    (hunread : ∀ found, read made (store.slotPath slot) ≠ .ok found)
    (hchanged : after.entry (store.backupPath slot) ≠ made.entry (store.backupPath slot)) :
    load after store slot ≠ .ok (some s) := by
  have hnone (found : SaveState) : ¬Holds made (store.slotPath slot) found :=
    fun hheld => hunread (some found) (read_eq_some_iff.mpr hheld)
  rw [ne_eq, load_eq_some_iff]
  rintro (hheld | ⟨-, hheld⟩)
  · cases hleft with
    | same _ hbackup => exact hchanged hbackup
    | torn _ _ hbackup => exact hchanged hbackup
    | copying _ hslot _ => exact hnone s ((holds_congr hslot).mp hheld)
    | writing _ hslot _ =>
      rcases hslot with hslot | hslot
      · exact hnone s ((holds_congr hslot).mp hheld)
      · exact hslot.not_holds hheld
  · cases hleft with
    | same _ hbackup => exact hchanged hbackup
    | torn _ _ hbackup => exact hchanged hbackup
    | copying _ _ hbackup => exact hbackup.not_holds hheld
    | writing _ _ hbackup => exact hnone s ((holds_congr hbackup).mp hheld)

/-- After a failed save the slot holds what it held, exactly if its first file could be read or was
not there, or if the second one is left alone. -/
theorem load_failed_iff {error : SaveError} (hload : load files store slot = .ok (some t))
    (hattempt : Attempt files store slot s after (.error error)) :
    load after store slot = .ok (some t) ∨ load after store slot = .ok (some s) ↔
      (∃ found, read (files.makeDirs store.directory).1 (store.slotPath slot) = .ok found) ∨
        after.entry (store.backupPath slot) =
          (files.makeDirs store.directory).1.entry (store.backupPath slot) := by
  have hmadeLoad := load_of_makeDirs hload
  cases hattempt with
  | noDirectory hmade =>
    rw [hmade] at hmadeLoad ⊢
    exact iff_of_true (.inl hmadeLoad) (.inr rfl)
  | failed hmade hchanges =>
    rw [hmade] at hmadeLoad ⊢
    have hleft := left_of_failed hchanges
    refine ⟨fun hloads => ?_, fun h => .inl (load_of_left hmadeLoad hleft h)⟩
    refine Classical.byContradiction fun hlost => ?_
    obtain ⟨hunread, hchanged⟩ := not_or.mp hlost
    have hunread := not_exists.mp hunread
    exact hloads.elim (not_load_of_left hleft hunread hchanged)
      (not_load_of_left hleft hunread hchanged)

theorem broken_empty : Broken "" := rfl

/-- Where the first file is there and cannot be read, a save reaches for the second one, and may
tear it. -/
theorem exists_attempt_that_tears (hmade : files.makeDirs store.directory = (made, .ok ()))
    (hload : load made store slot = .ok (some t))
    (hunread : ∀ found, read made (store.slotPath slot) ≠ .ok found) (s : SaveState) :
    ∃ after error, Attempt files store slot s after (.error error) ∧
      after.entry (store.backupPath slot) ≠ made.entry (store.backupPath slot) := by
  have hnone (found : SaveState) : ¬Holds made (store.slotPath slot) found :=
    fun hheld => hunread (some found) (read_eq_some_iff.mpr hheld)
  obtain ⟨-, hheld⟩ := (load_eq_some_iff.mp hload).resolve_left (hnone t)
  obtain ⟨content, hcontent, hparse, -⟩ := hheld
  obtain ⟨there, hthere, hfind⟩ := Files.entry_eq_ok_iff.mp hcontent
  have hbackup : made.TakesFile (store.backupPath slot) := ⟨there, hthere, hfind ▸ nofun⟩
  obtain ⟨file, hfile⟩ : ∃ file, made.entry (store.slotPath slot) = .ok file := by
    obtain ⟨here, -, hhere⟩ :=
      Files.locate_of_siblings (siblings_slot_backup store slot).symm hthere
    cases hslot : made.find? here with
    | some file => exact ⟨file, Files.entry_eq_ok_iff.mpr ⟨here, hhere, hslot⟩⟩
    | none =>
      refine absurd (read_missing ?_) (hunread none)
      rw [Files.entry_of_locate hhere, hslot]
      rfl
  obtain ⟨after, hwrite, htorn⟩ := Files.write_of_takesFile hbackup ""
  have hchanges : Files.AttemptAll Broken made (changes made store slot s) after
      (.error (.copy (store.slotPath slot) (store.backupPath slot), .notFound)) := by
    have hspoilt : (made.write (store.backupPath slot) "").1 = after := congrArg Prod.fst hwrite
    rw [changes_of_present hfile]
    exact .failed _ (.spoilt broken_empty hspoilt .notFound)
  refine ⟨after, _, .failed hmade hchanges, fun hsame => ?_⟩
  cases (htorn.symm.trans hsame).trans hcontent
  cases broken_empty.symm.trans hparse

/-- Whatever fails, the slot holds what it held, exactly if its first file can be read or is not
there, or the directory cannot be made in the first place. -/
theorem failed_saves_keep_iff (hload : load files store slot = .ok (some t)) (s : SaveState) :
    (∀ after error, Attempt files store slot s after (.error error) →
      load after store slot = .ok (some t) ∨ load after store slot = .ok (some s)) ↔
    (files.makeDirs store.directory).2 ≠ .ok () ∨
      ∃ found, read (files.makeDirs store.directory).1 (store.slotPath slot) = .ok found := by
  constructor
  · intro hkeeps
    refine Classical.byContradiction fun hlost => ?_
    obtain ⟨hmade, hunread⟩ := not_or.mp hlost
    have hunread := not_exists.mp hunread
    have hmadeLoad := load_of_makeDirs hload
    obtain ⟨after, error, hattempt, hchanged⟩ :=
      exists_attempt_that_tears (Prod.ext rfl (Classical.not_not.mp hmade)) hmadeLoad hunread s
    exact ((load_failed_iff hload hattempt).mp (hkeeps after error hattempt)).elim
      (fun ⟨found, hfound⟩ => hunread found hfound) hchanged
  · rintro (hfails | hread) after error hattempt
    · cases hattempt with
      | noDirectory hmade =>
        have hmadeLoad := load_of_makeDirs hload
        rw [hmade] at hmadeLoad
        exact .inl hmadeLoad
      | failed hmade _ => exact absurd (congrArg Prod.snd hmade) hfails
    · exact (load_failed_iff hload hattempt).mpr (.inl hread)

/-- A save directory with the two files of one slot. -/
def millFiles (current previous : String) : Files :=
  ⟨[(["mill.json", "save"], .text current), (["mill.json.bak", "save"], .text previous),
    (["save"], .directory)]⟩

def millStore : SaveStore := ⟨"save"⟩

theorem entry_millFiles (current previous : String) :
    (millFiles current previous).entry (millStore.slotPath "mill") = .ok (.text current) ∧
      (millFiles current previous).entry (millStore.backupPath "mill") = .ok (.text previous) :=
  ⟨rfl, rfl⟩

theorem copy_millFiles (current previous : String) : ∃ copied,
    (millFiles current previous).perform
      (.copy (millStore.slotPath "mill") (millStore.backupPath "mill")) = (copied, .ok ()) :=
  ⟨_, rfl⟩

theorem makeDirs_millFiles (current previous : String) :
    (millFiles current previous).makeDirs millStore.directory =
      (millFiles current previous, .ok ()) := rfl

/-- The slot was sound, and the torn text that took its place is made up for by the copy. -/
theorem sound_slot_survives_torn_write :
    let files := millFiles spring.render "\x7b torn"
    ∃ after, load files millStore "mill" = .ok (some spring) ∧
      Attempt files millStore "mill" autumn after
        (.error (.io (millStore.slotPath "mill") .notFound)) ∧
      (load after millStore "mill" = .ok (some spring) ∨
        load after millStore "mill" = .ok (some autumn)) := by
  intro files
  obtain ⟨hslot, -⟩ := entry_millFiles spring.render "\x7b torn"
  obtain ⟨copied, hcopy⟩ := copy_millFiles spring.render "\x7b torn"
  have hbroken : Broken "\x7b torn" := rfl
  have hheld := holds_of_render storable_spring hslot
  have hload := load_eq_some_iff.mpr (.inl hheld)
  have hchanges : Files.AttemptAll Broken files (changes files millStore "mill" autumn)
      (copied.write (millStore.slotPath "mill") "\x7b torn").1
      (.error (.write (millStore.slotPath "mill") autumn.render, .notFound)) := by
    rw [changes_of_present hslot]
    exact .next (.performed hcopy) (.failed [] (.spoilt hbroken rfl .notFound))
  have hattempt := Attempt.failed (makeDirs_millFiles spring.render "\x7b torn") hchanges
  have hread : ∃ found, read (files.makeDirs millStore.directory).1 (millStore.slotPath "mill") =
      .ok found := ⟨some spring, read_eq_some_iff.mpr hheld⟩
  exact ⟨_, hload, hattempt,
    (failed_saves_keep_iff hload autumn).mpr (.inr hread) _ _ hattempt⟩

/-- The only save there was is in the second file, and a torn text is copied over it. -/
theorem torn_slot_takes_its_backup :
    let files := millFiles "\x7b torn" spring.render
    ∃ after, load files millStore "mill" = .ok (some spring) ∧
      Attempt files millStore "mill" autumn after
        (.error (.io (millStore.slotPath "mill") .notFound)) ∧
      ¬(load after millStore "mill" = .ok (some spring) ∨
        load after millStore "mill" = .ok (some autumn)) := by
  intro files
  obtain ⟨hslot, hbackup⟩ := entry_millFiles "\x7b torn" spring.render
  obtain ⟨copied, hcopy⟩ := copy_millFiles "\x7b torn" spring.render
  have hbroken : Broken "\x7b torn" := rfl
  have hload : load files millStore "mill" = .ok (some spring) :=
    load_eq_some_iff.mpr (.inr ⟨fun _ => not_holds_of_broken hbroken hslot,
      holds_of_render storable_spring hbackup⟩)
  have hchanges : Files.AttemptAll Broken files (changes files millStore "mill" autumn) copied
      (.error (.write (millStore.slotPath "mill") autumn.render, .notFound)) := by
    rw [changes_of_present hslot]
    exact .next (.performed hcopy) (.failed [] (.untouched .notFound))
  have htouches := Files.touches_of_perform hcopy
  have hslotAfter :=
    (htouches.entry_sibling (siblings_slot_backup millStore "mill").symm).trans hslot
  have hbackupAfter := (Files.entry_of_copy hcopy).trans hslot
  refine ⟨copied, hload, .failed (makeDirs_millFiles _ _) hchanges, ?_⟩
  rw [load_eq_some_iff, load_eq_some_iff]
  rintro ((h | ⟨-, h⟩) | (h | ⟨-, h⟩))
  · exact not_holds_of_broken hbroken hslotAfter h
  · exact not_holds_of_broken hbroken hbackupAfter h
  · exact not_holds_of_broken hbroken hslotAfter h
  · exact not_holds_of_broken hbroken hbackupAfter h

end SaveStore

end StoryEngine
