import StoryEngine.Proofs.Json.Fields
import StoryEngine.Proofs.Json.Indented
import StoryEngine.Save.State

/-! # The text of a save read back

Whatever a record leaves out is what its reader takes for granted, so nothing of a save is lost in
its text, whatever characters stand in its names.
-/

namespace StoryEngine

set_option autoImplicit false

open Json (member? required withDefault list? map? set? natBelow? written)
open Text.Numeral (count32 count64)

namespace Json

theorem isPlain_array_map {α : Type} {list : List α} {toJson : α → Json}
    (h : ∀ a ∈ list, (toJson a).isPlain = true) : (array (list.map toJson)).isPlain = true :=
  allPlain_iff.mpr (List.forall_mem_map.mpr h)

theorem isPlain_object_map {α : Type} {list : List (String × α)} {toJson : α → Json}
    (h : ∀ e ∈ list, (toJson e.2).isPlain = true) :
    (object (list.map fun e => (e.1, toJson e.2))).isPlain = true :=
  allMembersPlain_iff.mpr (List.forall_mem_map.mpr h)

theorem isPlain_written {fields : List (String × Option Json)}
    (h : ∀ f ∈ fields, ∀ v, f.2 = some v → v.isPlain = true) :
    (object (written fields)).isPlain = true :=
  allMembersPlain_iff.mpr fun _ hm => h _ (mem_written.mp hm) _ rfl

theorem isPlain_set (s : StringSet) : (array (s.keys.map Json.string)).isPlain = true :=
  isPlain_array_map fun _ _ => rfl

end Json

namespace Progress

def fields (p : Progress) : List (String × Option Json) :=
  [("started", if !p.started then none else some (.bool true)),
    ("completed", if !p.completed then none else some (.bool true)),
    ("failed", if !p.failed then none else some (.bool true))]

theorem members_eq_written (p : Progress) : p.members = written p.fields := by
  obtain ⟨⟨⟩, ⟨⟩, ⟨⟩⟩ := p <;> rfl

theorem ofFields?_fields (p : Progress) : ofFields? (p.fields.map (·.2)) = some p := by
  obtain ⟨⟨⟩, ⟨⟩, ⟨⟩⟩ := p <;> rfl

theorem isPlain_toJson (p : Progress) : p.toJson.isPlain = true := by
  obtain ⟨⟨⟩, ⟨⟩, ⟨⟩⟩ := p <;> rfl

theorem allMembersSound_members (depth : Nat) (p : Progress) :
    Json.allMembersSound depth p.members = true := by
  obtain ⟨⟨⟩, ⟨⟩, ⟨⟩⟩ := p <;> rfl

theorem ofJson?_toJson (p : Progress) : ofJson? p.toJson = some p := by
  have hnames : (p.fields.map (·.1)).Nodup := (by decide : fieldNames.Nodup)
  have hrecord : p.toJson.record? fieldNames = some (p.fields.map (·.2)) := by
    rw [toJson, members_eq_written]
    exact Json.record?_written hnames
  rw [ofJson?, hrecord]
  exact p.ofFields?_fields

end Progress

namespace QuestState

def stepsJson (s : QuestState) : Json := .object (s.steps.toList.map fun e => (e.1, e.2.toJson))

def hintsJson (s : QuestState) : Json := .array (s.hints.keys.map Json.string)

def parts (s : QuestState) : List (String × Option Json) :=
  [("steps", if s.steps.isEmpty then none else some s.stepsJson),
    ("hints", if s.hints.isEmpty then none else some s.hintsJson)]

def fields (s : QuestState) : List (String × Option Json) := s.progress.fields ++ s.parts

theorem written_fields (s : QuestState) :
    written s.fields = s.progress.members ++ written s.parts := by
  rw [fields, Json.written_append, ← Progress.members_eq_written]

theorem toJson_eq_written (s : QuestState) : s.toJson = .object (written s.fields) := by
  rw [toJson, written_fields, List.append_assoc, parts]
  cases s.steps.isEmpty <;> cases s.hints.isEmpty <;> rfl

theorem nodup_fields (s : QuestState) : (s.fields.map (·.1)).Nodup :=
  (by decide : (Progress.fieldNames ++ partNames).Nodup)

/-- Beside its steps and hints a record holds marks only. -/
theorem filter_written_fields (s : QuestState) :
    (written s.fields).filter (fun m => !partNames.contains m.1) = s.progress.members := by
  have hmarks : s.progress.members.filter (fun m => !partNames.contains m.1) =
      s.progress.members := by
    obtain ⟨⟨⟨⟩, ⟨⟩, ⟨⟩⟩, _, _⟩ := s <;> rfl
  have hparts : (written s.parts).filter (fun m => !partNames.contains m.1) = [] := by
    rw [parts]
    cases s.steps.isEmpty <;> cases s.hints.isEmpty <;> rfl
  rw [written_fields, List.filter_append, hmarks, hparts, List.append_nil]

theorem isPlain_parts (s : QuestState) : (Json.object (written s.parts)).isPlain = true := by
  refine Json.isPlain_written (List.forall_mem_cons.mpr ⟨fun v hv => ?_, ?_⟩)
  · cases (Option.ite_none_left_eq_some.mp hv).2
    exact Json.isPlain_object_map fun e _ => e.2.isPlain_toJson
  · refine List.forall_mem_singleton.mpr fun v hv => ?_
    cases (Option.ite_none_left_eq_some.mp hv).2
    exact Json.isPlain_set s.hints

theorem isPlain_toJson (s : QuestState) : s.toJson.isPlain = true := by
  have hmarks := Json.allMembersPlain_iff.mp s.progress.isPlain_toJson
  have hparts := Json.allMembersPlain_iff.mp s.isPlain_parts
  rw [toJson_eq_written, written_fields]
  exact Json.allMembersPlain_iff.mpr (List.forall_mem_append.mpr ⟨hmarks, hparts⟩)

theorem ofJson?_toJson (roomBelow : Nat) (s : QuestState) :
    ofJson? roomBelow s.toJson = some s := by
  have hpart {f : String × Option Json} (hf : f ∈ s.parts) :
      member? (written s.fields) f.1 = some f.2 :=
    Json.member?_written s.nodup_fields (List.mem_append_right _ hf)
  have hfoundSteps := hpart List.mem_cons_self
  have hfoundHints := hpart (List.mem_cons_of_mem _ List.mem_cons_self)
  have hmarks : Progress.fieldNames.mapM (member? (written s.fields)) =
      some (s.progress.fields.map (·.2)) :=
    Json.mapM_member?_written s.nodup_fields fun f hf => List.mem_append_left _ hf
  have hsteps : withDefault (map? Progress.ofJson?) ∅
      (if s.steps.isEmpty then none else some s.stepsJson) = some s.steps :=
    Json.withDefault_unless StringMap.isEmpty_iff.mp
      (Json.map?_object fun e _ => e.2.ofJson?_toJson)
  have hhints : withDefault set? ∅ (if s.hints.isEmpty then none else some s.hintsJson) =
      some s.hints :=
    Json.withDefault_unless StringMap.isEmpty_iff.mp (Json.set?_array s.hints)
  rw [toJson_eq_written, ofJson?]
  simp only [hfoundSteps, hfoundHints, hmarks, Option.bind_eq_bind, Option.bind_some,
    Progress.ofFields?_fields, hsteps, hhints, filter_written_fields,
    Progress.allMembersSound_members]
  rfl

end QuestState

namespace SaveState

/-- The numbers of a save fit into the width in which they are kept. -/
structure Fits (s : SaveState) : Prop where
  version : s.version < count32
  durations : ∀ d ∈ s.turns.durations, d < count32
  previous : s.turns.previous < count64
  current : s.turns.current < count64

def fields (s : SaveState) : List (String × Option Json) :=
  [("version", some (.number s.version)), ("flags", some (setJson s.flags)),
    ("talked_to", some (setJson s.talkedTo)),
    ("quests", some (.object (s.quests.toList.map fun e => (e.1, e.2.toJson)))),
    ("turn_durations", some (.array (s.turns.durations.map fun (d : Nat) => Json.number d))),
    ("previous_clock", some (.number s.turns.previous)),
    ("current_clock", some (.number s.turns.current))]

theorem toJson_eq_written (s : SaveState) : s.toJson = .object (written s.fields) := rfl

theorem record?_toJson (s : SaveState) :
    s.toJson.record? fieldNames = some (s.fields.map (·.2)) := by
  have hnames : (s.fields.map (·.1)).Nodup := (by decide : fieldNames.Nodup)
  rw [toJson_eq_written]
  exact Json.record?_written hnames

/-- A record with all its fields. -/
theorem ofJson?_of_fields {v version flags talkedTo quests durations previous current : Json}
    {s : SaveState}
    (hrecord : v.record? fieldNames = some [some version, some flags, some talkedTo, some quests,
      some durations, some previous, some current])
    (hversion : natBelow? count32 version = some s.version)
    (hflags : set? flags = some s.flags) (htalkedTo : set? talkedTo = some s.talkedTo)
    (hquests : map? (QuestState.ofJson? roomInQuest) quests = some s.quests)
    (hdurations : list? (natBelow? count32) durations = some s.turns.durations)
    (hprevious : natBelow? count64 previous = some s.turns.previous)
    (hcurrent : natBelow? count64 current = some s.turns.current) : ofJson? v = some s := by
  simp only [ofJson?, hrecord, required, withDefault, hversion, hflags, htalkedTo, hquests,
    hdurations, hprevious, hcurrent, Option.bind_eq_bind, Option.bind_some]
  rfl

theorem ofJson?_toJson {s : SaveState} (h : s.Fits) : ofJson? s.toJson = some s :=
  ofJson?_of_fields s.record?_toJson (Json.natBelow?_number h.version) (Json.set?_array s.flags)
    (Json.set?_array s.talkedTo) (Json.map?_object fun e _ => e.2.ofJson?_toJson roomInQuest)
    (Json.list?_array fun d hd => Json.natBelow?_number (h.durations d hd))
    (Json.natBelow?_number h.previous) (Json.natBelow?_number h.current)

theorem isPlain_toJson (s : SaveState) : s.toJson.isPlain = true := by
  have hquests : (Json.object (s.quests.toList.map fun e => (e.1, e.2.toJson))).isPlain = true :=
    Json.isPlain_object_map fun e _ => e.2.isPlain_toJson
  have hdurations :
      (Json.array (s.turns.durations.map fun (d : Nat) => Json.number d)).isPlain = true :=
    Json.isPlain_array_map fun _ _ => rfl
  refine Json.allMembersPlain_iff.mpr ?_
  simp only [List.forall_mem_cons]
  exact ⟨rfl, Json.isPlain_set s.flags, Json.isPlain_set s.talkedTo, hquests, hdurations, rfl, rfl,
    nofun⟩

/-- A save is read from its text as it was. -/
theorem parse?_render {s : SaveState} (h : s.Fits) : parse? s.render = some s := by
  rw [parse?, render, Json.parse?_indented s.isPlain_toJson, Option.bind_some, ofJson?_toJson h]

/-- Names with quotes, control characters and pictures in them, records of which some or all is
left out, and numbers as large as they get. -/
theorem parse?_render_of_torn_page :
    let s : SaveState := ⟨1, .ofKeys ["", "torn\npage", "a \"key\" \\ \x00\x1f\x7f", "\u2028🗝"],
      .ofKeys ["Älteste"],
      .ofList [("idle", .untouched), ("lost_ring", ⟨⟨true, false, true⟩,
        .ofList [("ask_smith", .untouched), ("search_well", ⟨true, true, false⟩)],
        .ofKeys ["well_is_dry"]⟩)],
      ⟨[0, 4294967295], 18446744073709551614, 18446744073709551615⟩⟩
    s.Fits ∧ parse? s.render = some s := by
  intro s
  have h : s.Fits := ⟨by decide, by decide, by decide, by decide⟩
  exact ⟨h, parse?_render h⟩

end SaveState

end StoryEngine
