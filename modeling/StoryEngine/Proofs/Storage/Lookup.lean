import StoryEngine.Collection.StringMap
import StoryEngine.Proofs.Result
import StoryEngine.Proofs.Storage.Paths
import StoryEngine.Storage.Files

/-! # Looking up files

A store that is made by its own operations holds one entry at each place. What stands at a name
below a directory is then what a listing of the directory has under this name.
-/

namespace StoryEngine

set_option autoImplicit false

namespace Location

def Plain (here : Location) : Prop := ∀ name ∈ here, Path.Plain name

theorem Plain.parent {here : Location} (h : here.Plain) : here.parent.Plain := by
  have hup : Path.Plain ".." := by decide
  unfold Location.parent
  split
  · exact List.forall_mem_singleton.mpr hup
  · exact h
  · exact List.forall_mem_cons.mpr ⟨hup, h⟩
  · exact (List.forall_mem_cons.mp h).2

theorem Plain.step {here : Location} (h : here.Plain) {name : String} (hname : Path.Plain name) :
    (here.step name).Plain := by
  unfold Location.step
  split
  · exact h
  · split
    · exact h.parent
    · exact List.forall_mem_cons.mpr ⟨hname, h⟩

theorem step_of_proper {name : String} (h : Path.Proper name) (here : Location) :
    here.step name = name :: here := by
  have hname := h.notHere
  simp only [List.mem_cons, List.not_mem_nil, or_false, not_or] at hname
  rw [Location.step, if_neg (not_or.mpr ⟨hname.1, hname.2.1⟩), if_neg hname.2.2]

end Location

namespace Files

structure WellFormed (files : Files) : Prop where
  nodup : (files.entries.map Prod.fst).Nodup
  plain : ∀ e ∈ files.entries, Location.Plain e.1

variable {files : Files}

theorem wellFormed_empty : WellFormed ∅ := ⟨List.nodup_nil, nofun⟩

theorem WellFormed.clear (h : files.WellFormed) (here : Location) :
    (files.clear here).WellFormed :=
  ⟨h.nodup.sublist (List.filter_sublist.map Prod.fst),
    fun e he => h.plain e (List.mem_filter.mp he).1⟩

theorem WellFormed.put (h : files.WellFormed) {here : Location} (hhere : here.Plain)
    (entry : FileEntry) : (files.put here entry).WellFormed := by
  refine ⟨List.nodup_cons.mpr ⟨fun hmem => ?_, (h.clear here).nodup⟩,
    List.forall_mem_cons.mpr ⟨hhere, (h.clear here).plain⟩⟩
  obtain ⟨e, he, heq⟩ := List.mem_map.mp hmem
  exact bne_iff_ne.mp (List.mem_filter.mp he).2 heq

theorem plain_of_descend {names : List String} {here there : Location}
    (h : files.descend here names = .ok there) (hhere : here.Plain)
    (hnames : ∀ name ∈ names, Path.Plain name) : there.Plain := by
  induction names generalizing here with
  | nil =>
    cases h
    exact hhere
  | cons name rest ih =>
    obtain ⟨hname, hrest⟩ := List.forall_mem_cons.mp hnames
    rw [descend] at h
    split at h
    · exact ih h (hhere.step hname) hrest
    · cases h
    · cases h

theorem plain_startOf (path : String) :
    (startOf path).1.Plain ∧ ∀ name ∈ (startOf path).2, Path.Plain name := by
  have hnames : ∀ name ∈ Path.names path, Path.Plain name := fun _ => Path.plain_of_mem_names
  unfold startOf
  split
  · next heq =>
    rw [heq] at hnames
    have hrest := List.forall_mem_cons.mp hnames
    exact ⟨List.forall_mem_singleton.mpr hrest.1, hrest.2⟩
  · exact ⟨nofun, hnames⟩

theorem plain_of_locate {path : String} {here : Location} (h : files.locate path = .ok here) :
    here.Plain := by
  unfold locate at h
  split at h
  · cases h
  · exact plain_of_descend h (plain_startOf path).1 (plain_startOf path).2

theorem WellFormed.place (h : files.WellFormed) (path : String) (file : FileEntry) :
    (files.place path file).1.WellFormed := by
  unfold Files.place
  split
  · exact h
  · next hlocate =>
    split
    · exact h
    · exact h.put (plain_of_locate hlocate) file

theorem WellFormed.write (h : files.WellFormed) (path content : String) :
    (files.write path content).1.WellFormed := h.place path (.text content)

theorem WellFormed.copy (h : files.WellFormed) (source target : String) :
    (files.copy source target).1.WellFormed := by
  unfold Files.copy
  split
  · exact h
  · exact h
  · exact h.place target _

theorem WellFormed.append (h : files.WellFormed) (path content : String) :
    (files.append path content).1.WellFormed := by
  unfold Files.append
  split
  · exact h.write path _
  · exact h
  · exact h.write path content

theorem WellFormed.remove (h : files.WellFormed) (path : String) :
    (files.remove path).1.WellFormed := by
  unfold Files.remove
  split
  · exact h
  · split
    · exact h
    · exact h
    · exact h.clear _

theorem WellFormed.makeDirsFrom (h : files.WellFormed) {here : Location} (hhere : here.Plain)
    {names : List String} (hnames : ∀ name ∈ names, Path.Plain name) :
    (files.makeDirsFrom here names).1.WellFormed := by
  induction names generalizing files here with
  | nil =>
    unfold Files.makeDirsFrom
    split
    · exact h
    · exact h
    · exact h.put hhere .directory
  | cons name rest ih =>
    obtain ⟨hname, hrest⟩ := List.forall_mem_cons.mp hnames
    unfold Files.makeDirsFrom
    split
    · exact ih h (hhere.step hname) hrest
    · exact h
    · exact ih (h.put hhere .directory) (hhere.step hname) hrest

theorem WellFormed.makeDirs (h : files.WellFormed) (path : String) :
    (files.makeDirs path).1.WellFormed := by
  unfold Files.makeDirs
  split
  · exact h
  · exact h.makeDirsFrom (plain_startOf path).1 (plain_startOf path).2

theorem WellFormed.performAll (h : files.WellFormed) (changes : List Change) :
    (files.performAll changes).1.WellFormed := by
  induction changes generalizing files with
  | nil => exact h
  | cons change rest ih =>
    have hfirst : (files.perform change).1.WellFormed := by
      cases change with
      | copy source target => exact h.copy source target
      | write path content => exact h.write path content
    unfold Files.performAll
    cases heq : files.perform change with
    | mk after outcome =>
      rw [heq] at hfirst
      cases outcome with
      | error fault => exact hfirst
      | ok => exact ih hfirst

theorem lookup_eq_some_iff_mem (h : files.WellFormed) {here : Location} {entry : FileEntry} :
    files.entries.lookup here = some entry ↔ (here, entry) ∈ files.entries := by
  constructor
  · intro hlookup
    obtain ⟨before, after, heq, -⟩ := List.lookup_eq_some_iff.mp hlookup
    rw [heq]
    exact List.mem_append_right before List.mem_cons_self
  · intro hmem
    obtain ⟨before, after, heq⟩ := List.append_of_mem hmem
    have hnodup := h.nodup
    rw [heq, List.map_append, List.nodup_append] at hnodup
    refine List.lookup_eq_some_iff.mpr ⟨before, after, heq, fun e he => ?_⟩
    have hhere : here ∈ ((here, entry) :: after).map Prod.fst := List.mem_cons_self
    exact bne_iff_ne.mpr (hnodup.2.2 e.1 (List.mem_map_of_mem he) here hhere).symm

def below (here : Location) : Location × FileEntry → Option (String × FileEntry)
  | (name :: up, entry) => if up = here then some (name, entry) else none
  | ([], _) => none

theorem below_eq_some_iff {here : Location} {e : Location × FileEntry} {name : String}
    {entry : FileEntry} : below here e = some (name, entry) ↔ e = (name :: here, entry) := by
  rcases e with ⟨_ | ⟨first, up⟩, found⟩
  · exact iff_of_false nofun nofun
  · rw [below, Option.ite_none_right_eq_some, Option.some.injEq, Prod.mk.injEq, Prod.mk.injEq,
      List.cons.injEq]
    exact ⟨fun ⟨hup, hname, hentry⟩ => ⟨⟨hname, hup⟩, hentry⟩,
      fun ⟨⟨hname, hup⟩, hentry⟩ => ⟨hup, hname, hentry⟩⟩

theorem children_eq (files : Files) (here : Location) :
    files.children here = .ofList (files.entries.filterMap (below here)) := rfl

theorem get?_children (h : files.WellFormed) (here : Location) (name : String) :
    (files.children here).get? name = files.entries.lookup (name :: here) := by
  have hkeys : ((files.entries.filterMap (below here)).map Prod.fst).Nodup := by
    refine List.pairwise_map.mpr (List.pairwise_filterMap.mpr ?_)
    refine (List.pairwise_map.mp h.nodup).imp fun {e e'} hne first hfirst second hsecond heq => ?_
    obtain rfl := below_eq_some_iff.mp hfirst
    obtain rfl := below_eq_some_iff.mp hsecond
    exact hne (congrArg (· :: here) heq)
  refine Option.ext fun entry => ?_
  rw [lookup_eq_some_iff_mem h, StringMap.get?_eq_some_iff, children_eq,
    (StringMap.toList_ofList_perm hkeys).mem_iff, List.mem_filterMap]
  constructor
  · rintro ⟨e, hmem, he⟩
    exact below_eq_some_iff.mp he ▸ hmem
  · intro hmem
    exact ⟨_, hmem, below_eq_some_iff.mpr rfl⟩

theorem descend_append (here : Location) (names more : List String) :
    files.descend here (names ++ more) =
      files.descend here names >>= fun there => files.descend there more := by
  induction names generalizing here with
  | nil => rfl
  | cons name rest ih =>
    rw [List.cons_append, descend, descend]
    split
    · exact ih _
    · rfl
    · rfl

theorem descend_singleton_eq_ok_iff {here there : Location} {name : String} :
    files.descend here [name] = .ok there ↔
      files.find? here = some .directory ∧ here.step name = there := by
  rw [descend, descend]
  split
  · next hhere => rw [hhere, Except.ok.injEq, and_iff_right rfl]
  · next hother hhere =>
    refine iff_of_false nofun fun ⟨hdirectory, _⟩ => hother ?_
    exact Option.some.inj (hhere.symm.trans hdirectory)
  · next hhere =>
    exact iff_of_false nofun fun ⟨hdirectory, _⟩ => nomatch hhere.symm.trans hdirectory

theorem startOf_append {path longer : String} {more : List String}
    (h : Path.names longer = Path.names path ++ more) :
    startOf longer = ((startOf path).1, (startOf path).2 ++ more) := by
  unfold startOf
  rw [h]
  cases hnames : Path.names path with
  | nil => exact absurd hnames (Path.names_ne_nil path)
  | cons name rest =>
    rw [List.cons_append]
    split <;> simp_all

theorem locate_join {directory name : String} {here : Location}
    (hlocate : files.locate directory = .ok here) (hhere : files.find? here = some .directory)
    (hname : Path.Proper name) :
    files.locate (Path.join directory name) = .ok (name :: here) := by
  have hlast : files.descend here [name] = .ok (name :: here) :=
    descend_singleton_eq_ok_iff.mpr ⟨hhere, here.step_of_proper hname⟩
  unfold locate at *
  split at hlocate
  · cases hlocate
  · next hdirectory =>
    rw [if_neg (Path.join_ne_empty hname)]
    rcases Path.names_join hdirectory hname.plain with hjoin | ⟨above, habove, hjoin⟩
    · rw [startOf_append hjoin, descend_append, hlocate]
      exact hlast
    · -- The slash at the end is an empty name, which leads nowhere else.
      rw [startOf_append habove, descend_append] at hlocate
      obtain ⟨there, hthere, hend⟩ := bind_eq_ok_iff.mp hlocate
      obtain ⟨-, rfl⟩ := descend_singleton_eq_ok_iff.mp hend
      rw [startOf_append hjoin, descend_append, hthere]
      exact hlast

theorem entry_eq_ok_iff {path : String} {entry : FileEntry} :
    files.entry path = .ok entry ↔
      ∃ here, files.locate path = .ok here ∧ files.find? here = some entry := by
  rw [Files.entry, bind_eq_ok_iff]
  refine exists_congr fun here => and_congr_right fun _ => ?_
  cases files.find? here with
  | none => exact iff_of_false nofun nofun
  | some other =>
    exact ⟨fun h => congrArg some (Except.ok.inj h),
      fun h => congrArg Except.ok (Option.some.inj h)⟩

theorem list_eq_ok_iff {directory : String} {found : StringMap FileEntry} :
    files.list directory = .ok found ↔ ∃ here, files.locate directory = .ok here ∧
      files.find? here = some .directory ∧ files.children here = found := by
  rw [list, bind_eq_ok_iff]
  refine exists_congr fun here => and_congr_right fun _ => ?_
  split
  · next hhere =>
    rw [and_iff_right hhere]
    exact ⟨Except.ok.inj, congrArg Except.ok⟩
  · next hother hhere =>
    refine iff_of_false nofun fun ⟨hdirectory, _⟩ => hother ?_
    exact Option.some.inj (hhere.symm.trans hdirectory)
  · next hhere =>
    exact iff_of_false nofun fun ⟨hdirectory, _⟩ => nomatch hhere.symm.trans hdirectory

/-- A path one step down from a directory leads to what the listing has under the name. -/
theorem entry_join_eq_ok_iff (h : files.WellFormed) {directory name : String}
    {found : StringMap FileEntry} (hlist : files.list directory = .ok found)
    (hname : Path.Proper name) {entry : FileEntry} :
    files.entry (Path.join directory name) = .ok entry ↔ found.get? name = some entry := by
  obtain ⟨here, hlocate, hhere, rfl⟩ := list_eq_ok_iff.mp hlist
  have hnotTop : ¬(name :: here = [] ∨ name :: here = [""]) := by
    rintro (heq | heq)
    · cases heq
    · exact hname.notHere (List.mem_cons.mpr (.inl (List.cons.inj heq).1))
  have hfind : files.find? (name :: here) = (files.children here).get? name := by
    rw [get?_children h, find?, if_neg hnotTop]
  rw [entry_eq_ok_iff, ← hfind]
  constructor
  · rintro ⟨there, hthere, hentry⟩
    rw [locate_join hlocate hhere hname] at hthere
    cases hthere
    exact hentry
  · intro hentry
    exact ⟨name :: here, locate_join hlocate hhere hname, hentry⟩

theorem plain_of_list (h : files.WellFormed) {directory name : String}
    {found : StringMap FileEntry} (hlist : files.list directory = .ok found) {entry : FileEntry}
    (hentry : found.get? name = some entry) : Path.Plain name := by
  obtain ⟨here, -, -, rfl⟩ := list_eq_ok_iff.mp hlist
  rw [get?_children h, lookup_eq_some_iff_mem h] at hentry
  exact h.plain _ hentry name List.mem_cons_self

theorem readText_eq_ok_iff {path content : String} :
    files.readText path = .ok content ↔ files.entry path = .ok (.text content) := by
  rw [readText, bind_eq_ok_iff]
  constructor
  · rintro ⟨entry, hentry, hread⟩
    cases entry with
    | text found =>
      cases hread
      exact hentry
    | binary => cases hread
    | directory => cases hread
  · intro hentry
    exact ⟨.text content, hentry, rfl⟩

theorem isFile_iff {path : String} :
    files.isFile path = true ↔ ∃ entry, files.entry path = .ok entry ∧ entry ≠ .directory := by
  unfold isFile
  constructor
  · intro h
    split at h
    · next hentry => exact ⟨_, hentry, nofun⟩
    · next hentry => exact ⟨_, hentry, nofun⟩
    · cases h
  · rintro ⟨entry, hentry, hfile⟩
    rw [hentry]
    cases entry with
    | text => rfl
    | binary => rfl
    | directory => exact absurd rfl hfile

end Files

end StoryEngine
