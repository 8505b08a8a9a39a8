import StoryEngine.Proofs.Schedule.Order
import StoryEngine.Proofs.Script.WalkGrammar

/-! # Patrols

A row gives a path and says how often it is walked. An event that became of a row has the path that
often as its patrol, and no row is accepted whose patrol would be too long. The one exception is
a row that says not at all: its length counts as none, and its path is walked once.
-/

namespace StoryEngine

set_option autoImplicit false

namespace ScheduleRow

/-- How often the path of a row is walked, as the row has it. -/
def rounds (row : ScheduleRow) : Nat := row.loops.getD 1

/-- A path as often as the row says. -/
def repeated (row : ScheduleRow) (path : List Direction) : List Direction :=
  (List.replicate row.rounds path).flatten

/-- The row has a path and says that it is walked not at all. -/
def NeverWalks (row : ScheduleRow) : Prop := row.loops = some 0 ∧ row.patrol ≠ none

structure Acceptable (row : ScheduleRow) : Prop where
  action : Text.trim row.action ≠ ""
  facing : ∃ facing, ScheduleEvent.readFacing row = .ok facing
  patrol : ∃ path, ScheduleEvent.readPath row = .ok path ∧
    (row.repeated path).length ≤ WalkPath.maxSteps

theorem length_repeated (row : ScheduleRow) (path : List Direction) :
    (row.repeated path).length = path.length * row.rounds := by
  simp [repeated, Nat.mul_comm]

end ScheduleRow

namespace ScheduleEvent

variable {row : ScheduleRow} {path patrol : List Direction} {event : ScheduleEvent}
  {minute : Nat} {dynamic : Bool}

/-- A path that is given has steps, and it fits by itself. -/
theorem readPath_cases (h : readPath row = .ok path) :
    (row.patrol = none ∧ path = []) ∨
      row.patrol ≠ none ∧ path ≠ [] ∧ path.length ≤ WalkPath.maxSteps := by
  unfold readPath at h
  split at h
  · next hnone =>
    cases h
    exact .inl ⟨hnone, rfl⟩
  · next raw hraw =>
    obtain ⟨segments, -, -, -, hsteps, hfits⟩ :=
      WalkPath.parse_eq_ok_iff.mp (mapError_eq_ok_iff.mp h)
    exact .inr ⟨hraw ▸ Option.some_ne_none raw, List.length_pos_iff.mp hsteps, hfits⟩

theorem length_le_of_readPath (h : readPath row = .ok path) :
    path.length ≤ WalkPath.maxSteps := by
  rcases readPath_cases h with ⟨-, rfl⟩ | ⟨-, -, hfits⟩
  · exact Nat.zero_le _
  · exact hfits

theorem repeatPath_one (path : List Direction) : repeatPath path 1 = path := by
  simp [repeatPath]

theorem repeatPath_nil (loops : Nat) : repeatPath [] loops = [] := by
  simp [repeatPath]

theorem readPatrol_eq_ok_iff : readPatrol row = .ok patrol ↔ ∃ path, readPath row = .ok path ∧
    (row.repeated path).length ≤ WalkPath.maxSteps ∧ repeatPath path row.rounds = patrol := by
  rw [readPatrol, bind_eq_ok_iff]
  refine exists_congr fun path => and_congr_right fun hpath => ?_
  rw [row.length_repeated, ScheduleRow.rounds]
  split
  · next hloops =>
    rw [hloops, Option.getD_none, Nat.mul_one, repeatPath_one,
      and_iff_right (length_le_of_readPath hpath)]
    exact ⟨Except.ok.inj, congrArg Except.ok⟩
  · next loops hloops =>
    rw [hloops, Option.getD_some]
    split
    · next hlong => exact iff_of_false nofun fun h => Nat.not_le.mpr hlong h.1
    · next hfits =>
      rw [and_iff_right (Nat.le_of_not_gt hfits)]
      split
      · next hnil =>
        rw [hnil, repeatPath_nil]
        exact ⟨Except.ok.inj, congrArg Except.ok⟩
      · exact ⟨Except.ok.inj, congrArg Except.ok⟩

theorem exists_ofRow_iff :
    (∃ event, ofRow minute dynamic row = .ok event) ↔ row.Acceptable := by
  constructor
  · rintro ⟨event, h⟩
    obtain ⟨haction, hfacing, hpatrol, -⟩ := ofRow_eq_ok_iff.mp h
    obtain ⟨path, hpath, hfits, -⟩ := readPatrol_eq_ok_iff.mp hpatrol
    exact ⟨haction, ⟨_, hfacing⟩, path, hpath, hfits⟩
  · rintro ⟨haction, ⟨facing, hfacing⟩, path, hpath, hfits⟩
    have hpatrol := readPatrol_eq_ok_iff.mpr ⟨path, hpath, hfits, rfl⟩
    exact ⟨⟨minute, row, facing, _, dynamic⟩,
      ofRow_eq_ok_iff.mpr ⟨haction, hfacing, hpatrol, rfl, rfl, rfl⟩⟩

/-- The patrol of an event fits, and is the path of its row as often as the row says exactly if that
is at least once. -/
structure PatrolFits (event : ScheduleEvent) : Prop where
  length_le : event.patrol.length ≤ WalkPath.maxSteps
  asAuthored_iff : ∃ path, readPath event.row = .ok path ∧
    (event.patrol = event.row.repeated path ↔ ¬event.row.NeverWalks)

theorem repeated_of_zero (h : row.loops = some 0) (path : List Direction) :
    row.repeated path = [] := by
  simp [ScheduleRow.repeated, ScheduleRow.rounds, h]

theorem repeatPath_rounds (h : row.loops ≠ some 0) (path : List Direction) :
    repeatPath path row.rounds = row.repeated path := by
  have hpos : 1 ≤ row.rounds := by
    unfold ScheduleRow.rounds
    cases hloops : row.loops with
    | none => exact Nat.le_refl 1
    | some loops => exact Nat.pos_of_ne_zero fun hzero => h (hloops ▸ congrArg some hzero)
  rw [repeatPath, Nat.max_eq_left hpos, ScheduleRow.repeated]

theorem patrolFits_of_ofRow (h : ofRow minute dynamic row = .ok event) : event.PatrolFits := by
  obtain ⟨-, -, hpatrol, -, rfl, -⟩ := ofRow_eq_ok_iff.mp h
  obtain ⟨path, hpath, hfits, hevent⟩ := readPatrol_eq_ok_iff.mp hpatrol
  by_cases hzero : event.row.loops = some 0
  · -- The guard counts no steps here, but the path is walked once.
    rw [show event.row.rounds = 0 by rw [ScheduleRow.rounds, hzero]; rfl] at hevent
    have honce : event.patrol = path := hevent.symm.trans (repeatPath_one path)
    refine ⟨honce ▸ length_le_of_readPath hpath, path, hpath, ?_⟩
    rw [repeated_of_zero hzero, honce, ScheduleRow.NeverWalks, and_iff_right hzero]
    rcases readPath_cases hpath with ⟨hnone, hnil⟩ | ⟨hgiven, hne, -⟩
    · exact iff_of_true hnil fun hgiven => hgiven hnone
    · exact iff_of_false hne fun hnone => hnone hgiven
  · have hrepeated : event.patrol = event.row.repeated path :=
      hevent.symm.trans (repeatPath_rounds hzero path)
    exact ⟨hrepeated ▸ hfits, path, hpath, iff_of_true hrepeated fun h => hzero h.1⟩

end ScheduleEvent

namespace Schedule

variable {s t next : Schedule} {actor token : String} {minute : Nat} {row : ScheduleRow}
  {rows : StringMap ScheduleRow} {entries : List (String × ScheduleRow)} {event : ScheduleEvent}

theorem Authors.unique {other : ScheduleEvent} (h : Authors token row event)
    (hother : Authors token row other) : event = other := by
  obtain ⟨minute, hminute, h⟩ := h
  obtain ⟨minute', hminute', hother⟩ := hother
  cases hminute.symm.trans hminute'
  exact Except.ok.inj (h.symm.trans hother)

theorem exists_authors_iff : (∃ event, Authors token row event) ↔
    (∃ minute, TimeToken.parse token = .ok minute) ∧ row.Acceptable := by
  constructor
  · rintro ⟨event, minute, hminute, hevent⟩
    exact ⟨⟨minute, hminute⟩, ScheduleEvent.exists_ofRow_iff.mp ⟨event, hevent⟩⟩
  · rintro ⟨⟨minute, hminute⟩, hrow⟩
    obtain ⟨event, hevent⟩ := ScheduleEvent.exists_ofRow_iff.mpr hrow
    exact ⟨event, minute, hminute, hevent⟩

theorem exists_addRows_iff :
    (∃ t, s.addRows entries = .ok t) ↔ ∀ e ∈ entries, ∃ event, Authors e.1 e.2 event := by
  induction entries generalizing s with
  | nil => exact iff_of_true ⟨s, rfl⟩ nofun
  | cons e rest ih =>
    rw [List.forall_mem_cons]
    constructor
    · rintro ⟨t, h⟩
      obtain ⟨next, hnext, hrest⟩ := bind_eq_ok_iff.mp h
      obtain ⟨event, hevent, -⟩ := addRow_eq_ok_iff.mp hnext
      exact ⟨⟨event, hevent⟩, ih.mp ⟨t, hrest⟩⟩
    · rintro ⟨⟨event, hevent⟩, hrest⟩
      obtain ⟨t, ht⟩ := ih.mpr hrest
      exact ⟨t, bind_eq_ok_iff.mpr ⟨_, addRow_eq_ok_iff.mpr ⟨event, hevent, rfl⟩, ht⟩⟩

theorem mem_events_of_addRows (h : s.addRows entries = .ok t) :
    event ∈ t.events ↔ (∃ e ∈ entries, Authors e.1 e.2 event) ∨ event ∈ s.events := by
  induction entries generalizing s with
  | nil =>
    cases h
    exact (or_iff_right nofun).symm
  | cons e rest ih =>
    obtain ⟨next, hnext, hrest⟩ := bind_eq_ok_iff.mp h
    obtain ⟨first, hfirst, rfl⟩ := addRow_eq_ok_iff.mp hnext
    have honly : event = first ↔ Authors e.1 e.2 event :=
      ⟨fun heq => heq ▸ hfirst, fun hevent => hevent.unique hfirst⟩
    rw [ih hrest, push, mem_insertEvent, honly, List.exists_mem_cons_iff, or_assoc, or_left_comm]

/-- The events of a table are those of its rows. -/
theorem mem_events_of_ofRows (h : ofRows actor rows = .ok s) : event ∈ s.events ↔
    ∃ token row, rows.get? token = some row ∧ Authors token row event := by
  have hnone : event ∉ (blank actor).events := List.not_mem_nil
  rw [mem_events_of_addRows (ofRows_eq_ok_iff.mp h).1, or_iff_left hnone]
  simp only [StringMap.get?_eq_some_iff, Prod.exists]

theorem ne_empty_iff : rows ≠ ∅ ↔ ∃ token row, rows.get? token = some row := by
  constructor
  · intro hne
    obtain ⟨e, he⟩ := List.exists_mem_of_ne_nil rows.toList fun h => hne (StringMap.ext_toList h)
    exact ⟨e.1, e.2, StringMap.get?_eq_some_iff.mpr he⟩
  · rintro ⟨token, row, hrow⟩ rfl
    cases hrow

/-- A table is accepted if it has rows and all of them are acceptable. -/
theorem exists_ofRows_iff : (∃ s, ofRows actor rows = .ok s) ↔ rows ≠ ∅ ∧
    ∀ token row, rows.get? token = some row →
      (∃ minute, TimeToken.parse token = .ok minute) ∧ row.Acceptable := by
  have hrows : (∀ e ∈ rows.toList, ∃ event, Authors e.1 e.2 event) ↔
      ∀ token row, rows.get? token = some row →
        (∃ minute, TimeToken.parse token = .ok minute) ∧ row.Acceptable := by
    simp only [exists_authors_iff, StringMap.get?_eq_some_iff, Prod.forall]
  rw [← hrows, ← exists_addRows_iff (s := blank actor)]
  constructor
  · rintro ⟨s, h⟩
    obtain ⟨hs, hne⟩ := ofRows_eq_ok_iff.mp h
    obtain ⟨event, hevent⟩ := List.exists_mem_of_ne_nil _ hne
    obtain ⟨token, row, hrow, -⟩ := (mem_events_of_ofRows h).mp hevent
    exact ⟨ne_empty_iff.mpr ⟨token, row, hrow⟩, s, hs⟩
  · rintro ⟨hne, s, hs⟩
    obtain ⟨token, row, hrow⟩ := ne_empty_iff.mp hne
    have hentry := StringMap.get?_eq_some_iff.mp hrow
    obtain ⟨event, hevent⟩ := exists_addRows_iff.mp ⟨s, hs⟩ _ hentry
    have hmem := (mem_events_of_addRows hs).mpr (.inl ⟨_, hentry, hevent⟩)
    exact ⟨s, ofRows_eq_ok_iff.mpr ⟨hs, List.ne_nil_of_mem hmem⟩⟩

theorem exists_insertDynamic_iff :
    (∃ next, s.insertDynamic minute row = .ok next) ↔ row.Acceptable := by
  constructor
  · rintro ⟨next, h⟩
    obtain ⟨event, hevent, -⟩ := insertDynamic_eq_ok_iff.mp h
    exact ScheduleEvent.exists_ofRow_iff.mp ⟨event, hevent⟩
  · intro h
    obtain ⟨event, hevent⟩ := ScheduleEvent.exists_ofRow_iff.mpr h
    exact ⟨_, insertDynamic_eq_ok_iff.mpr ⟨event, hevent, rfl⟩⟩

/-- Each row of a table, and each row put in at run time, becomes an event of its minute if it is
accepted. The patrol of the event never has too many steps, and it is the path of the row as often
as the row says, exactly if the row does not have a path and say that it is walked not at all. A row
whose path would be too long if walked that often is not accepted, nor is a table that has it. -/
theorem patrols_as_authored_iff (actor : String) (rows : StringMap ScheduleRow) (s : Schedule)
    (minute : Nat) (row : ScheduleRow) :
    (∀ t, ofRows actor rows = .ok t →
      (∀ token row, rows.get? token = some row → ∃ event ∈ t.events,
        TimeToken.parse token = .ok event.minute ∧ event.row = row) ∧
      ∀ event ∈ t.events, event.PatrolFits) ∧
    (∀ next, s.insertDynamic minute row = .ok next → ∃ event,
      next = s.push event ∧ event.minute = minute ∧ event.row = row ∧ event.PatrolFits) ∧
    ((∃ t, ofRows actor rows = .ok t) ↔ rows ≠ ∅ ∧
      ∀ token row, rows.get? token = some row →
        (∃ minute, TimeToken.parse token = .ok minute) ∧ row.Acceptable) ∧
    ((∃ next, s.insertDynamic minute row = .ok next) ↔ row.Acceptable) := by
  refine ⟨?_, ?_, exists_ofRows_iff, exists_insertDynamic_iff⟩
  · intro t ht
    constructor
    · intro token row hrow
      obtain ⟨event, hevent⟩ :=
        exists_authors_iff.mpr ((exists_ofRows_iff.mp ⟨t, ht⟩).2 token row hrow)
      refine ⟨event, (mem_events_of_ofRows ht).mpr ⟨token, row, hrow, hevent⟩, ?_⟩
      obtain ⟨minute, hminute, hread⟩ := hevent
      obtain ⟨-, -, -, rfl, rfl, -⟩ := ScheduleEvent.ofRow_eq_ok_iff.mp hread
      exact ⟨hminute, rfl⟩
    · intro event hevent
      obtain ⟨_, _, -, _, -, hread⟩ := (mem_events_of_ofRows ht).mp hevent
      exact ScheduleEvent.patrolFits_of_ofRow hread
  · intro next h
    obtain ⟨event, hevent, rfl⟩ := insertDynamic_eq_ok_iff.mp h
    obtain ⟨-, -, -, hminute, hrow, -⟩ := ScheduleEvent.ofRow_eq_ok_iff.mp hevent
    exact ⟨event, rfl, hminute, hrow, ScheduleEvent.patrolFits_of_ofRow hevent⟩

/-- A guard who goes round twice, and a thousand times more than a patrol may have steps. -/
theorem guard_goes_round_twice :
    let row : Nat → ScheduleRow := fun loops =>
      ⟨"patrol", none, some "N2E", some loops, none, none, none⟩
    let round : List Direction := [.north, .north, .east]
    let s : Schedule := ⟨"guard", [⟨480, row 2, none, round ++ round, false⟩]⟩
    ofRows "guard" (.ofList [("08:00", row 2)]) = .ok s ∧
      (∀ event ∈ s.events, event.PatrolFits) ∧
      ¬∃ next, s.insertDynamic 500 (row 2000) = .ok next := by
  intro row round s
  have hs : ofRows "guard" (.ofList [("08:00", row 2)]) = .ok s :=
    toOption_eq_some_iff.mp (by decide +kernel)
  obtain ⟨htable, -, -, hinsert⟩ :=
    patrols_as_authored_iff "guard" (.ofList [("08:00", row 2)]) s 500 (row 2000)
  refine ⟨hs, (htable s hs).2, ?_⟩
  rw [hinsert]
  rintro ⟨-, -, path, hpath, hfits⟩
  have hround : ScheduleEvent.readPath (row 2000) = .ok round :=
    toOption_eq_some_iff.mp (by decide +kernel)
  cases hpath.symm.trans hround
  rw [ScheduleRow.length_repeated] at hfits
  exact absurd hfits (by decide)

/-- A guard who is told to go round not at all goes round once. -/
theorem guard_told_to_stay_goes_round :
    let row : ScheduleRow := ⟨"patrol", none, some "N2E", some 0, none, none, none⟩
    let event : ScheduleEvent := ⟨480, row, none, [.north, .north, .east], false⟩
    ofRows "guard" (.ofList [("08:00", row)]) = .ok ⟨"guard", [event]⟩ ∧
      WalkPath.parse "N2E" = .ok [.north, .north, .east] ∧
      event.patrol ≠ (List.replicate 0 [Direction.north, .north, .east]).flatten := by
  intro row event
  exact ⟨toOption_eq_some_iff.mp (by decide +kernel), toOption_eq_some_iff.mp (by decide +kernel),
    by decide⟩

end Schedule

end StoryEngine
