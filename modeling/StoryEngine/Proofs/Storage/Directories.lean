import StoryEngine.Proofs.Storage.Siblings

/-! # Directories made on the way

Making a directory takes nothing away, and all that it adds are directories. Every entry of a store
stands in a directory, so that nothing is found below the new one that was not found before.
-/

namespace StoryEngine

set_option autoImplicit false

namespace Files

variable {files after : Files}

/-- What was missing in the first store may be a directory in the second. All else is the same. -/
def AddsFolders (files after : Files) : Prop :=
  ∀ here, after.find? here = files.find? here ∨
    files.find? here = none ∧ after.find? here = some .directory

namespace AddsFolders

theorem refl (files : Files) : AddsFolders files files := fun _ => .inl rfl

theorem trans {last : Files} (h : AddsFolders files after) (hlast : AddsFolders after last) :
    AddsFolders files last := by
  intro here
  rcases h here with hsame | ⟨hmissing, hfolder⟩ <;> rcases hlast here with hlast | ⟨hlast, hnew⟩
  · exact .inl (hlast.trans hsame)
  · exact .inr ⟨hsame.symm.trans hlast, hnew⟩
  · exact .inr ⟨hmissing, hlast.trans hfolder⟩
  · exact .inr ⟨hmissing, hnew⟩

theorem keepsFolders (h : AddsFolders files after) : KeepsFolders files after := by
  intro here hhere
  rcases h here with hsame | ⟨hmissing, -⟩
  · exact hsame.trans hhere
  · cases hmissing.symm.trans hhere

/-- A path that can be followed afterwards could be followed before, or nothing was there. -/
theorem descend (h : AddsFolders files after) {here there : Location} {names : List String}
    (hthere : after.descend here names = .ok there) :
    files.descend here names = .ok there ∨ files.descend here names = .error .notFound := by
  induction names generalizing here with
  | nil => exact .inl hthere
  | cons name rest ih =>
    rw [Files.descend] at hthere ⊢
    split at hthere
    · next hhere =>
      rcases h here with hsame | ⟨hmissing, -⟩
      · rw [← hsame, hhere]
        exact ih hthere
      · rw [hmissing]
        exact .inr rfl
    · cases hthere
    · cases hthere

theorem locate (h : AddsFolders files after) {path : String} {here : Location}
    (hhere : after.locate path = .ok here) :
    files.locate path = .ok here ∨ files.locate path = .error .notFound := by
  unfold Files.locate at *
  split at hhere
  · cases hhere
  · next hpath =>
    rw [if_neg hpath]
    exact h.descend hhere

theorem entry (h : AddsFolders files after) {path : String} {here : Location}
    (hhere : files.locate path = .ok here) : after.entry path = files.entry path ∨
      files.entry path = .error .notFound ∧ after.entry path = .ok .directory := by
  rw [entry_of_locate hhere, entry_of_locate (h.keepsFolders.locate hhere)]
  rcases h here with hsame | ⟨hmissing, hfolder⟩
  · exact .inl (by rw [hsame])
  · rw [hmissing, hfolder]
    exact .inr ⟨rfl, rfl⟩

end AddsFolders

theorem find?_put_self_of_missing {here : Location} (h : files.find? here = none)
    (entry : FileEntry) : (files.put here entry).find? here = some entry := by
  have hnotTop := not_top_of_find?_ne (h ▸ nofun : files.find? here ≠ some .directory)
  rw [find?_put files here here entry hnotTop, if_pos rfl]

theorem addsFolders_put {here : Location} (h : files.find? here = none) :
    AddsFolders files (files.put here .directory) := by
  intro there
  by_cases hthere : there = here
  · subst hthere
    exact .inr ⟨h, find?_put_self_of_missing h .directory⟩
  · exact .inl (find?_put_of_ne hthere .directory)

theorem addsFolders_makeDirsFrom (files : Files) (here : Location) (names : List String) :
    AddsFolders files (files.makeDirsFrom here names).1 := by
  induction names generalizing files here with
  | nil =>
    unfold makeDirsFrom
    split
    · exact .refl files
    · exact .refl files
    · next hmissing => exact addsFolders_put hmissing
  | cons name rest ih =>
    unfold makeDirsFrom
    split
    · exact ih files _
    · exact .refl files
    · next hmissing => exact (addsFolders_put hmissing).trans (ih _ _)

theorem addsFolders_makeDirs (files : Files) (path : String) :
    AddsFolders files (files.makeDirs path).1 := by
  unfold makeDirs
  split
  · exact .refl files
  · exact addsFolders_makeDirsFrom files _ _

theorem descend_of_makeDirsFrom {made : Files} {here : Location} {names : List String}
    (h : files.makeDirsFrom here names = (made, .ok ())) :
    ∃ there, made.descend here names = .ok there ∧ made.find? there = some .directory := by
  induction names generalizing files here with
  | nil =>
    refine ⟨here, rfl, ?_⟩
    unfold makeDirsFrom at h
    split at h
    · next hhere =>
      cases h
      exact hhere
    · cases h
    · next hmissing =>
      cases h
      exact find?_put_self_of_missing hmissing .directory
  | cons name rest ih =>
    have hkeeps {before : Files} (hbefore : before.find? here = some .directory)
        (hrest : before.makeDirsFrom (here.step name) rest = (made, .ok ())) :
        ∃ there, made.descend here (name :: rest) = .ok there ∧
          made.find? there = some .directory := by
      have hadds := addsFolders_makeDirsFrom before (here.step name) rest
      rw [hrest] at hadds
      rw [descend, hadds.keepsFolders here hbefore]
      exact ih hrest
    unfold makeDirsFrom at h
    split at h
    · next hhere => exact hkeeps hhere h
    · cases h
    · next hmissing => exact hkeeps (find?_put_self_of_missing hmissing .directory) h

theorem makeDirsFrom_append {here there : Location} {names : List String}
    (h : files.descend here names = .ok there) (more : List String) :
    files.makeDirsFrom here (names ++ more) = files.makeDirsFrom there more := by
  induction names generalizing here with
  | nil =>
    cases h
    rfl
  | cons name rest ih =>
    rw [descend] at h
    rw [List.cons_append, makeDirsFrom]
    split at h
    · exact ih h
    · cases h
    · cases h

theorem makeDirsFrom_of_descend {here there : Location} {names : List String}
    (h : files.descend here names = .ok there) (hthere : files.find? there = some .directory) :
    files.makeDirsFrom here names = (files, .ok ()) := by
  rw [← List.append_nil names, makeDirsFrom_append h, makeDirsFrom, hthere]

theorem locate_of_makeDirs {made : Files} {path : String} (hpath : path ≠ "")
    (h : files.makeDirs path = (made, .ok ())) :
    ∃ here, made.locate path = .ok here ∧ made.find? here = some .directory := by
  rw [makeDirs, if_neg hpath] at h
  rw [locate, if_neg hpath]
  exact descend_of_makeDirsFrom h

/-- A directory is made once. -/
theorem makeDirs_again {made : Files} {path : String} (h : files.makeDirs path = (made, .ok ()))
    (hkeeps : KeepsFolders made after) : after.makeDirs path = (after, .ok ()) := by
  by_cases hpath : path = ""
  · rw [makeDirs, if_pos hpath]
  · obtain ⟨here, hhere, hfolder⟩ := locate_of_makeDirs hpath h
    rw [locate, if_neg hpath] at hhere
    rw [makeDirs, if_neg hpath]
    exact makeDirsFrom_of_descend (hkeeps.descend hhere) (hkeeps here hfolder)

theorem find?_tail_startOf (files : Files) (path : String) :
    files.find? (startOf path).1.tail = some .directory := by
  unfold startOf
  split <;> rfl

/-- Every entry stands in a directory. -/
def Rooted (files : Files) : Prop :=
  ∀ e ∈ files.entries, files.find? e.1.tail = some .directory

namespace Rooted

theorem empty : Rooted ∅ := nofun

theorem tail (h : files.Rooted) {here : Location} {entry : FileEntry}
    (hentry : files.find? here = some entry) : files.find? here.tail = some .directory := by
  by_cases htop : here = [] ∨ here = [""]
  · rcases htop with rfl | rfl <;> rfl
  · rw [find?, if_neg htop] at hentry
    obtain ⟨before, behind, heq, -⟩ := List.lookup_eq_some_iff.mp hentry
    refine h (here, entry) ?_
    rw [heq]
    exact List.mem_append_right before List.mem_cons_self

theorem of_suffix (h : files.Rooted) {here there : Location} (hsuffix : here <:+ there)
    (hthere : files.find? there = some .directory) : files.find? here = some .directory := by
  obtain ⟨front, rfl⟩ := hsuffix
  induction front with
  | nil => exact hthere
  | cons name rest ih => exact ih (h.tail hthere)

theorem step (h : files.Rooted) {here : Location} (hhere : files.find? here = some .directory)
    (name : String) : files.find? (here.step name).tail = some .directory := by
  have hup := h.tail hhere
  unfold Location.step
  split
  · exact hup
  · split
    · unfold Location.parent
      split
      · rfl
      · rfl
      · exact hhere
      · exact h.tail hup
    · exact hhere

/-- A path leads to a place in a directory. -/
theorem of_descend (h : files.Rooted) {here there : Location} {names : List String}
    (hhere : files.find? here.tail = some .directory)
    (hthere : files.descend here names = .ok there) :
    files.find? there.tail = some .directory := by
  induction names generalizing here with
  | nil =>
    cases hthere
    exact hhere
  | cons name rest ih =>
    rw [descend] at hthere
    split at hthere
    · next hfolder => exact ih (h.step hfolder name) hthere
    · cases hthere
    · cases hthere

theorem of_locate (h : files.Rooted) {path : String} {here : Location}
    (hhere : files.locate path = .ok here) : files.find? here.tail = some .directory := by
  unfold locate at hhere
  split at hhere
  · cases hhere
  · exact h.of_descend (find?_tail_startOf files path) hhere

theorem put (h : files.Rooted) {here : Location} (hup : files.find? here.tail = some .directory)
    (hfree : files.find? here ≠ some .directory) (entry : FileEntry) :
    (files.put here entry).Rooted := by
  have hkeeps := keepsFolders_put hfree entry
  exact List.forall_mem_cons.mpr ⟨hkeeps _ hup,
    fun e he => hkeeps _ (h e (List.mem_filter.mp he).1)⟩

theorem touches (h : files.Rooted) {path : String} (htouches : Touches files path after) :
    after.Rooted := by
  cases htouches with
  | same => exact h
  | put hhere hfree _ => exact h.put (h.of_locate hhere) hfree _
  | clear _ hfree => exact fun e he => keepsFolders_clear hfree _ (h e (List.mem_filter.mp he).1)

theorem makeDirsFrom (h : files.Rooted) {here : Location}
    (hhere : files.find? here.tail = some .directory) (names : List String) :
    (files.makeDirsFrom here names).1.Rooted := by
  induction names generalizing files here with
  | nil =>
    unfold Files.makeDirsFrom
    split
    · exact h
    · exact h
    · next hmissing => exact h.put hhere (hmissing ▸ nofun) .directory
  | cons name rest ih =>
    unfold Files.makeDirsFrom
    split
    · next hfolder => exact ih h (h.step hfolder name)
    · exact h
    · next hmissing =>
      have hput := h.put hhere (hmissing ▸ nofun) .directory
      exact ih hput (hput.step (find?_put_self_of_missing hmissing .directory) name)

theorem makeDirs (h : files.Rooted) (path : String) : (files.makeDirs path).1.Rooted := by
  unfold Files.makeDirs
  split
  · exact h
  · exact h.makeDirsFrom (find?_tail_startOf files path) _

theorem performAll (h : files.Rooted) (changes : List Change) :
    (files.performAll changes).1.Rooted := by
  induction changes generalizing files with
  | nil => exact h
  | cons change rest ih =>
    have hfirst := h.touches (touches_perform files change)
    unfold Files.performAll
    split
    · next heq =>
      rw [heq] at hfirst
      exact hfirst
    · next heq =>
      rw [heq] at hfirst
      exact ih hfirst

end Rooted

/-- Where the names of a path lead nowhere yet, they go down only. -/
def GoesDown (files : Files) (path : String) : Prop :=
  ∃ known rest here, (startOf path).2 = known ++ rest ∧ ".." ∉ rest ∧
    files.descend (startOf path).1 known = .ok here

theorem suffix_foldl_step {names : List String} (h : ".." ∉ names) (here : Location) :
    here <:+ names.foldl Location.step here := by
  induction names generalizing here with
  | nil => exact List.suffix_rfl
  | cons name rest ih =>
    obtain ⟨hname, hrest⟩ := not_or.mp fun hmem => h (List.mem_cons.mpr hmem)
    refine List.IsSuffix.trans ?_ (ih hrest (here.step name))
    unfold Location.step
    split
    · exact List.suffix_rfl
    · rw [if_neg (Ne.symm hname)]
      exact List.suffix_cons name here

theorem eq_foldl_step_of_descend {here there : Location} {names : List String}
    (h : files.descend here names = .ok there) : there = names.foldl Location.step here := by
  induction names generalizing here with
  | nil =>
    cases h
    rfl
  | cons name rest ih =>
    rw [descend] at h
    split at h
    · exact ih h
    · cases h
    · cases h

/-- The way down to a directory that is there can be followed. -/
theorem Rooted.descend (h : files.Rooted) {names : List String} (hdown : ".." ∉ names)
    {here : Location} (hthere : files.find? (names.foldl Location.step here) = some .directory) :
    files.descend here names = .ok (names.foldl Location.step here) := by
  induction names generalizing here with
  | nil => rfl
  | cons name rest ih =>
    rw [Files.descend, h.of_suffix (suffix_foldl_step hdown here) hthere]
    exact ih (fun hmem => hdown (List.mem_cons_of_mem name hmem)) hthere

/-- The directories that are made are no deeper than the last of them. -/
theorem find?_makeDirsFrom_of_deeper {names : List String} (hdown : ".." ∉ names)
    (files : Files) {here there : Location}
    (hthere : (names.foldl Location.step here).length < there.length) :
    (files.makeDirsFrom here names).1.find? there = files.find? there := by
  have hne : there ≠ here := by
    rintro rfl
    exact absurd (suffix_foldl_step hdown there).length_le (Nat.not_le.mpr hthere)
  induction names generalizing files here with
  | nil =>
    unfold makeDirsFrom
    split
    · rfl
    · rfl
    · exact find?_put_of_ne hne .directory
  | cons name rest ih =>
    have hrest : ".." ∉ rest := fun hmem => hdown (List.mem_cons_of_mem name hmem)
    have hnext : there ≠ here.step name := by
      rintro rfl
      exact absurd (suffix_foldl_step hrest _).length_le (Nat.not_le.mpr hthere)
    unfold makeDirsFrom
    split
    · exact ih hrest files hthere hnext
    · rfl
    · rw [ih hrest _ hthere hnext, find?_put_of_ne hne]

/-- A new directory is empty, and one that was there keeps what is in it. -/
theorem entry_join_makeDirs (hrooted : files.Rooted) {directory name : String} {made : Files}
    (hdown : files.GoesDown directory) (hmade : files.makeDirs directory = (made, .ok ()))
    (hname : Path.Proper name) :
    made.entry (Path.join directory name) = files.entry (Path.join directory name) := by
  have hadds := addsFolders_makeDirs files directory
  rw [hmade] at hadds
  by_cases hempty : directory = ""
  · rw [makeDirs, if_pos hempty] at hmade
    cases hmade
    rfl
  obtain ⟨known, rest, here, hnames, hrest, hknown⟩ := hdown
  rw [makeDirs, if_neg hempty, hnames, makeDirsFrom_append hknown] at hmade
  obtain ⟨there, hthere, hfolder⟩ := descend_of_makeDirsFrom hmade
  have hway {store : Files} (hstore : KeepsFolders files store) :
      store.locate directory = store.descend here rest := by
    rw [locate, if_neg hempty, hnames, descend_append, hstore.descend hknown]
    rfl
  have hlocate : made.locate (Path.join directory name) = .ok (name :: there) :=
    locate_join ((hway hadds.keepsFolders).trans hthere) hfolder hname
  obtain rfl := eq_foldl_step_of_descend hthere
  have hfind : made.find? (name :: rest.foldl Location.step here) =
      files.find? (name :: rest.foldl Location.step here) := by
    have hdeeper : (rest.foldl Location.step here).length <
        (name :: rest.foldl Location.step here).length := Nat.lt_succ_self _
    have hfind := find?_makeDirsFrom_of_deeper hrest files hdeeper
    rwa [hmade] at hfind
  rw [entry_of_locate hlocate, hfind]
  rcases hadds.locate hlocate with hbefore | hbefore
  · rw [entry_of_locate hbefore]
  · -- Nothing is found below a directory that was missing.
    have hmissing : files.find? (name :: rest.foldl Location.step here) = none := by
      refine Option.eq_none_iff_forall_ne_some.mpr fun entry hentry => ?_
      have hup := hrooted.tail hentry
      have hfollow := (hway (.refl files)).trans (hrooted.descend hrest hup)
      rw [locate_join hfollow hup hname] at hbefore
      cases hbefore
    rw [hmissing, Files.entry, hbefore]
    rfl

end Files

end StoryEngine
