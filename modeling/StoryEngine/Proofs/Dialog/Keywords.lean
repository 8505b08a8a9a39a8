import StoryEngine.Dialog.Table
import StoryEngine.Proofs.Collection.Latest
import StoryEngine.Proofs.Json.Fields

/-! # Keywords of a dialog file

A dialog file may have several keywords that are the same once they are trimmed and in small
letters. A table holds the entries of one of them only, and counts the degraded events of these.
What goes missing is listed with its entries, so that it can be said when a table is complete.
-/

namespace StoryEngine.DialogTable

set_option autoImplicit false

open Json (list?)

def keywordsOf (v : Json) : List (String × Json) :=
  match v.field? "keywords" 4 with
  | some (.object members) => members
  | _ => []

/-- The keywords of a file as they are spelled, each with what stands under it. -/
def written (content : String) : List (String × Json) := (Json.parse? content).elim [] keywordsOf

/-- The keywords of a file with their entries. -/
def authored (content : String) : List (String × List DialogEntry) :=
  (written content).map fun m => (m.1, (list? DialogEntry.ofJson? m.2).getD [])

/-- The keywords that another one takes the place of, which is spelled the same and comes later, or
else is greater and the same once it is normalized. -/
def lost (content : String) : List (String × List DialogEntry) :=
  StringMap.overwritten normalize (authored content)

def entriesUnder (keyword : String) (keywords : List (String × List DialogEntry)) :
    List DialogEntry :=
  (keywords.filter fun m => normalize m.1 == keyword).flatMap (·.2)

def degradedIn (keywords : List (String × List DialogEntry)) : Nat :=
  ((keywords.flatMap (·.2)).flatMap (·.events)).countP Action.isDegraded

def stored (table : DialogTable) (keyword : String) : List DialogEntry :=
  (table.keywords.get? keyword).getD []

variable {npc content : String} {table : DialogTable}

theorem keywordsOf_read {v : Json} {m : StringMap (List DialogEntry)}
    (h : Json.withDefault (Json.map? (list? DialogEntry.ofJson?)) ∅ (v.field? "keywords" 4) =
      some m) :
    (∀ e ∈ keywordsOf v, (list? DialogEntry.ofJson? e.2).isSome = true) ∧
      m = .ofList ((keywordsOf v).map fun e => (e.1, (list? DialogEntry.ofJson? e.2).getD [])) := by
  unfold keywordsOf
  cases hfield : v.field? "keywords" 4 with
  | none =>
    rw [hfield] at h
    cases h
    exact ⟨nofun, rfl⟩
  | some w =>
    rw [hfield] at h
    obtain ⟨members, rfl, hread, hm⟩ := Json.exists_of_map? h []
    exact ⟨hread, hm⟩

/-- In a file that is accepted all entries can be read, and the table is filled with them. -/
theorem keywords_of_parse? (h : parse? npc content = some table) :
    (∀ m ∈ written content, (list? DialogEntry.ofJson? m.2).isSome = true) ∧
      table.keywords = normalizeKeys (.ofList (authored content)) := by
  obtain ⟨v, hv, htable⟩ := Option.bind_eq_some_iff.mp h
  rw [authored, written, hv, Option.elim_some]
  obtain ⟨fields, hfields, htable⟩ := Option.bind_eq_some_iff.mp htable
  have hfield : fields[4]? = some (v.field? "keywords" 4) := Json.getElem?_of_record? hfields rfl
  split at htable
  · next aliases contextual language noMatch keywords =>
    simp only [Option.bind_eq_bind, Option.bind_eq_some_iff] at htable
    obtain ⟨_, _, _, _, _, _, _, _, m, hm, htable⟩ := htable
    have hkeywords : keywords = v.field? "keywords" 4 := Option.some.inj hfield
    obtain ⟨hread, rfl⟩ := keywordsOf_read (hkeywords ▸ hm)
    cases htable
    exact ⟨hread, rfl⟩
  · cases htable

theorem entriesUnder_append (keyword : String)
    (keywords others : List (String × List DialogEntry)) :
    entriesUnder keyword (keywords ++ others) =
      entriesUnder keyword keywords ++ entriesUnder keyword others := by
  rw [entriesUnder, List.filter_append, List.flatMap_append]
  rfl

theorem degradedIn_append (keywords others : List (String × List DialogEntry)) :
    degradedIn (keywords ++ others) = degradedIn keywords + degradedIn others := by
  rw [degradedIn, List.flatMap_append, List.flatMap_append, List.countP_append]
  rfl

theorem entriesUnder_perm {keywords others : List (String × List DialogEntry)}
    (h : keywords.Perm others) (keyword : String) :
    (entriesUnder keyword keywords).Perm (entriesUnder keyword others) :=
  (h.filter _).flatMap_right _

theorem degradedIn_perm {keywords others : List (String × List DialogEntry)}
    (h : keywords.Perm others) : degradedIn keywords = degradedIn others :=
  ((h.flatMap_right _).flatMap_right _).countP_eq _

section

variable {held : List (String × List DialogEntry)}
  (hheld : table.keywords.toList.Perm (held.map fun m => (normalize m.1, m.2)))

include hheld

theorem stored_perm_entriesUnder (keyword : String) :
    (table.stored keyword).Perm (entriesUnder keyword held) := by
  have hunder := (hheld.filter fun m => m.1 == keyword).flatMap_right (·.2)
  rw [StringMap.filter_key_toList, List.filter_map, List.flatMap_map] at hunder
  refine List.Perm.trans (.of_eq ?_) hunder
  rw [stored]
  cases table.keywords.get? keyword with
  | none => rfl
  | some entries => exact (List.append_nil entries).symm

theorem degradedEvents_eq_degradedIn : table.degradedEvents = degradedIn held := by
  have hentries := hheld.flatMap_right (·.2)
  rw [List.flatMap_map] at hentries
  exact (hentries.flatMap_right (·.events)).countP_eq _

theorem stored_sublist {keywords : List (String × List DialogEntry)} (hsubset : held ⊆ keywords)
    (keyword : String) : (table.stored keyword).Sublist (entriesUnder keyword keywords) := by
  rw [stored]
  cases hget : table.keywords.get? keyword with
  | none => exact List.nil_sublist _
  | some entries =>
    have hmem := hheld.subset (StringMap.get?_eq_some_iff.mp hget)
    obtain ⟨m, hm, heq⟩ := List.mem_map.mp hmem
    obtain ⟨hkeyword, rfl⟩ := Prod.mk.inj heq
    have hunder : m ∈ keywords.filter fun m => normalize m.1 == keyword :=
      List.mem_filter.mpr ⟨hsubset hm, beq_iff_eq.mpr hkeyword⟩
    exact List.sublist_flatten_of_mem (List.mem_map_of_mem hunder)

end

/-- The entries that a file has for a keyword are those that the table holds and the lost ones, and
the degraded events of the file are those that are counted and the lost ones. So a keyword has all
its entries exactly if none of them is lost, and no keyword is lost at all if they all differ once
they are normalized. -/
theorem keeps_entries_iff (h : parse? npc content = some table) :
    (∀ m ∈ written content, (list? DialogEntry.ofJson? m.2).isSome = true) ∧
    (∀ keyword,
      (table.stored keyword).Sublist (entriesUnder keyword (authored content)) ∧
      (entriesUnder keyword (authored content)).Perm
        (table.stored keyword ++ entriesUnder keyword (lost content)) ∧
      (table.stored keyword = entriesUnder keyword (authored content) ↔
        entriesUnder keyword (lost content) = [])) ∧
    degradedIn (authored content) = table.degradedEvents + degradedIn (lost content) ∧
    (lost content = [] ↔ ((authored content).map fun m => normalize m.1).Nodup) := by
  obtain ⟨hread, hkeywords⟩ := keywords_of_parse? h
  obtain ⟨held, hauthored, hheld⟩ := StringMap.exists_held normalize (authored content)
  replace hheld : table.keywords.toList.Perm (held.map fun m => (normalize m.1, m.2)) :=
    hkeywords ▸ hheld
  refine ⟨hread, fun keyword => ?_, ?_, StringMap.overwritten_eq_nil_iff normalize⟩
  · have hsublist : (table.stored keyword).Sublist (entriesUnder keyword (authored content)) :=
      stored_sublist hheld (fun m hm => hauthored.symm.subset (List.mem_append_left _ hm)) keyword
    have hperm : (entriesUnder keyword (authored content)).Perm
        (table.stored keyword ++ entriesUnder keyword (lost content)) := by
      refine (entriesUnder_perm hauthored keyword).trans ?_
      rw [entriesUnder_append]
      exact (stored_perm_entriesUnder hheld keyword).symm.append_right _
    have hlength := hperm.length_eq
    rw [List.length_append] at hlength
    refine ⟨hsublist, hperm, fun hall => ?_, fun hnone => hsublist.eq_of_length ?_⟩
    · rw [← hall] at hlength
      exact List.eq_nil_of_length_eq_zero (Nat.left_eq_add.mp hlength)
    · rw [hlength, hnone, List.length_nil, Nat.add_zero]
  · rw [degradedIn_perm hauthored, degradedIn_append, degradedEvents_eq_degradedIn hheld]
    rfl

theorem hi_has_both_entries :
    let content := "\x7b\"keywords\": \x7b\"HI\": [], " ++
      "\" Bye\": [\x7b\"events\": [\"jump=far\"]\x7d], " ++
      "\"hi\": [\x7b\"script\": [\"Hello.\"]\x7d, \x7b\"script\": [\"You again?\"]\x7d]\x7d\x7d"
    ∃ table, parse? "Mara" content = some table ∧ entriesUnder "hi" (lost content) = [] ∧
      table.stored "hi" = entriesUnder "hi" (authored content) ∧
      (table.stored "hi").map (·.lines) = [["Hello."], ["You again?"]] ∧
      table.degradedEvents = 1 ∧ degradedIn (authored content) = 1 := by
  intro content
  have hfile : (parse? "Mara" content).isSome = true ∧ entriesUnder "hi" (lost content) = [] ∧
      (entriesUnder "hi" (authored content)).map (·.lines) = [["Hello."], ["You again?"]] ∧
      degradedIn (authored content) = 1 ∧ degradedIn (lost content) = 0 := by
    decide +kernel
  obtain ⟨hsome, hlost, hlines, hwhole, hnone⟩ := hfile
  obtain ⟨table, htable⟩ := Option.isSome_iff_exists.mp hsome
  obtain ⟨-, hkeywords, hdegraded, -⟩ := keeps_entries_iff htable
  have hall := (hkeywords "hi").2.2.mpr hlost
  rw [hwhole, hnone, Nat.add_zero] at hdegraded
  exact ⟨table, htable, hlost, hall, hall ▸ hlines, hdegraded.symm, hwhole⟩

/-- Of two spellings of a keyword one goes, with its entry and the degraded event in it. -/
theorem one_spelling_of_hi_is_lost :
    let content := "\x7b\"keywords\": " ++
      "\x7b\"Hi\": [\x7b\"script\": [\"Hi!\"], \"events\": [\"jump=far\"]\x7d], " ++
      "\"hi\": [\x7b\"script\": [\"Hello.\"]\x7d]\x7d\x7d"
    (entriesUnder "hi" (authored content)).map (·.lines) = [["Hi!"], ["Hello."]] ∧
      degradedIn (authored content) = 1 ∧
      ∃ table, parse? "Mara" content = some table ∧
        (table.stored "hi").map (·.lines) = [["Hello."]] ∧
        ¬(table.stored "hi").Perm (entriesUnder "hi" (authored content)) ∧
        table.degradedEvents = 0 := by
  intro content
  have hfile : (entriesUnder "hi" (authored content)).map (·.lines) = [["Hi!"], ["Hello."]] ∧
      degradedIn (authored content) = 1 ∧
      (parse? "Mara" content).map (fun table =>
        ((table.stored "hi").map (·.lines), table.degradedEvents)) = some ([["Hello."]], 0) := by
    decide +kernel
  obtain ⟨hauthored, hwhole, hloaded⟩ := hfile
  obtain ⟨table, htable, hpair⟩ := Option.map_eq_some_iff.mp hloaded
  obtain ⟨hstored, hdegraded⟩ := Prod.mk.inj hpair
  refine ⟨hauthored, hwhole, table, htable, hstored, fun hperm => ?_, hdegraded⟩
  have hlines := hperm.map (·.lines)
  rw [hauthored, hstored] at hlines
  exact absurd hlines.length_eq (by decide)

end StoryEngine.DialogTable
