import StoryEngine.Proofs.Schedule.Insertion

/-! # Runtime events and the authored table

While the game runs, events are put into a schedule and all of them are taken out again. The events
stay in order meanwhile, a new one goes behind all that begin no later, and a clearing gives back
the schedule as it was authored.
-/

namespace StoryEngine

set_option autoImplicit false

namespace ScheduleEvent

theorem ofRow_dynamic {minute : Nat} {dynamic : Bool} {row : ScheduleRow} {event : ScheduleEvent}
    (h : ofRow minute dynamic row = .ok event) : event.dynamic = dynamic :=
  (ofRow_eq_ok_iff.mp h).2.2.2.2.2

end ScheduleEvent

namespace Schedule

inductive Edit where
  | insert (minute : Nat) (row : ScheduleRow)
  | clear

inductive Answer where
  | inserted
  | refused (e : ScheduleError)
  | cleared (removed : Nat)
deriving DecidableEq

/-- An insertion that is refused leaves the schedule that was there. -/
def edit (s : Schedule) : Edit → Answer × Schedule
  | .insert minute row =>
    match s.insertDynamic minute row with
    | .ok next => (.inserted, next)
    | .error e => (.refused e, s)
  | .clear => (.cleared s.clear.1, s.clear.2)

/-- The number of runtime events after an answer, from the number before it. -/
def Answer.tally (n : Nat) : Answer → Nat
  | inserted => n + 1
  | refused _ => n
  | cleared _ => 0

def dynamicCount (s : Schedule) : Nat := s.events.countP (·.dynamic)

variable {s next : Schedule} {minute : Nat} {row : ScheduleRow}

theorem clear_fst (s : Schedule) : s.clear.1 = s.dynamicCount := by
  have hsplit := List.length_eq_countP_add_countP (fun e : ScheduleEvent => e.dynamic)
    (l := s.events)
  simp only [clear, clearDynamic, dynamicCount, ← List.countP_eq_length_filter]
  simp at hsplit ⊢
  omega

theorem inOrder_clearDynamic (hs : InOrder s.events) : InOrder s.clearDynamic.events :=
  List.Pairwise.filter _ hs

theorem dynamicCount_clearDynamic (s : Schedule) : s.clearDynamic.dynamicCount = 0 := by
  simp [dynamicCount, clearDynamic, List.countP_filter]

theorem clearDynamic_clearDynamic (s : Schedule) :
    s.clearDynamic.clearDynamic = s.clearDynamic := by
  simp [clearDynamic, List.filter_filter]

theorem filter_insertEvent {event : ScheduleEvent} (hevent : event.dynamic = true)
    (events : List ScheduleEvent) :
    (insertEvent event events).filter (fun e => !e.dynamic) =
      events.filter fun e => !e.dynamic := by
  induction events with
  | nil => simp [insertEvent, hevent]
  | cons other rest ih =>
    rw [insertEvent]
    split
    · rw [List.filter_cons, List.filter_cons, ih]
    · rw [List.filter_cons, if_neg (by simp [hevent])]

/-- The new event divides those that begin no later than it from those that begin later. -/
theorem insertEvent_eq_append (event : ScheduleEvent) {events : List ScheduleEvent}
    (hs : InOrder events) : ∃ front back, events = front ++ back ∧
      insertEvent event events = front ++ event :: back ∧
      (∀ e ∈ front, e.minute ≤ event.minute) ∧ ∀ e ∈ back, event.minute < e.minute := by
  induction events with
  | nil => exact ⟨[], [], rfl, rfl, List.forall_mem_nil _, List.forall_mem_nil _⟩
  | cons other rest ih =>
    obtain ⟨hother, hrest⟩ := List.pairwise_cons.mp hs
    rw [insertEvent]
    split
    · next hle =>
      obtain ⟨front, back, rfl, hinsert, hfront, hback⟩ := ih hrest
      refine ⟨other :: front, back, rfl, by rw [hinsert]; rfl, ?_, hback⟩
      intro e he
      rcases List.mem_cons.mp he with rfl | he
      · exact hle
      · exact hfront e he
    · next hlt =>
      refine ⟨[], other :: rest, rfl, rfl, List.forall_mem_nil _, ?_⟩
      intro e he
      rcases List.mem_cons.mp he with rfl | he
      · omega
      · have := hother e he
        omega

theorem edit_insert_of_ok (h : s.insertDynamic minute row = .ok next) :
    s.edit (.insert minute row) = (.inserted, next) := by
  rw [edit, h]

theorem edit_insert_of_error {e : ScheduleError} (h : s.insertDynamic minute row = .error e) :
    s.edit (.insert minute row) = (.refused e, s) := by
  rw [edit, h]

/-- What an edit does: it puts a runtime event in its place, is refused, or takes them all out. -/
theorem edit_cases (s : Schedule) (e : Edit) :
    (∃ minute row event, e = .insert minute row ∧ ScheduleEvent.ofRow minute true row = .ok event ∧
      s.insertDynamic minute row = .ok (s.push event) ∧ s.edit e = (.inserted, s.push event)) ∨
    (∃ minute row fault, e = .insert minute row ∧ s.insertDynamic minute row = .error fault ∧
      s.edit e = (.refused fault, s)) ∨
    e = .clear ∧ s.edit e = (.cleared s.dynamicCount, s.clearDynamic) := by
  cases e with
  | insert minute row =>
    cases hinsert : s.insertDynamic minute row with
    | ok next =>
      obtain ⟨event, hevent, rfl⟩ := insertDynamic_eq_ok_iff.mp hinsert
      exact .inl ⟨minute, row, event, rfl, hevent, hinsert, edit_insert_of_ok hinsert⟩
    | error fault =>
      exact .inr (.inl ⟨minute, row, fault, rfl, hinsert, edit_insert_of_error hinsert⟩)
  | clear =>
    refine .inr (.inr ⟨rfl, ?_⟩)
    rw [edit, clear_fst]
    rfl

theorem edit_inOrder (e : Edit) (hs : InOrder s.events) : InOrder (s.edit e).2.events := by
  rcases edit_cases s e with ⟨_, _, event, _, _, _, hedit⟩ | ⟨_, _, _, _, _, hedit⟩ | ⟨_, hedit⟩
  · rw [hedit]
    exact inOrder_insertEvent hs
  · rw [hedit]
    exact hs
  · rw [hedit]
    exact inOrder_clearDynamic hs

theorem edit_clearDynamic (s : Schedule) (e : Edit) :
    (s.edit e).2.clearDynamic = s.clearDynamic := by
  rcases edit_cases s e with ⟨_, _, event, _, hevent, _, hedit⟩ | ⟨_, _, _, _, _, hedit⟩ |
    ⟨_, hedit⟩
  · rw [hedit, clearDynamic, push, filter_insertEvent (ScheduleEvent.ofRow_dynamic hevent)]
    rfl
  · rw [hedit]
  · rw [hedit]
    exact clearDynamic_clearDynamic s

theorem edit_dynamicCount (s : Schedule) (e : Edit) :
    (s.edit e).2.dynamicCount = (s.edit e).1.tally s.dynamicCount := by
  rcases edit_cases s e with ⟨_, _, event, _, hevent, _, hedit⟩ | ⟨_, _, _, _, _, hedit⟩ |
    ⟨_, hedit⟩
  · rw [hedit, dynamicCount, push, countP_insertEvent, List.countP_cons,
      if_pos (ScheduleEvent.ofRow_dynamic hevent)]
    rfl
  · rw [hedit]
    rfl
  · rw [hedit]
    exact dynamicCount_clearDynamic s

def editAll (s : Schedule) : List Edit → List Answer × Schedule
  | [] => ([], s)
  | e :: rest =>
    let (answer, next) := s.edit e
    let (answers, final) := next.editAll rest
    (answer :: answers, final)

theorem editAll_cons (s : Schedule) (e : Edit) (rest : List Edit) :
    (s.editAll (e :: rest)).2 = ((s.edit e).2.editAll rest).2 :=
  rfl

theorem editAll_append (s : Schedule) (earlier later : List Edit) :
    (s.editAll (earlier ++ later)).2 = ((s.editAll earlier).2.editAll later).2 := by
  induction earlier generalizing s with
  | nil => rfl
  | cons e rest ih =>
    rw [List.cons_append, editAll_cons, editAll_cons]
    exact ih (s.edit e).2

theorem editAll_inOrder (edits : List Edit) (hs : InOrder s.events) :
    InOrder (s.editAll edits).2.events := by
  induction edits generalizing s with
  | nil => exact hs
  | cons e rest ih =>
    rw [editAll_cons]
    exact ih (edit_inOrder e hs)

theorem editAll_clearDynamic (s : Schedule) (edits : List Edit) :
    (s.editAll edits).2.clearDynamic = s.clearDynamic := by
  induction edits generalizing s with
  | nil => rfl
  | cons e rest ih =>
    rw [editAll_cons, ih]
    exact edit_clearDynamic s e

theorem editAll_dynamicCount (s : Schedule) (edits : List Edit) :
    (s.editAll edits).2.dynamicCount = (s.editAll edits).1.foldl Answer.tally s.dynamicCount := by
  induction edits generalizing s with
  | nil => rfl
  | cons e rest ih =>
    rw [editAll, List.foldl_cons, ← edit_dynamicCount]
    exact ih (s.edit e).2

/-- The schedules that nothing was put into yet at run time. -/
inductive Authored : Schedule → Prop where
  | blank (actor : String) : Authored (blank actor)
  | ofRows {actor : String} {rows : StringMap ScheduleRow} {s : Schedule}
      (h : ofRows actor rows = .ok s) : Authored s

theorem Authored.built (h : s.Authored) : s.Built := by
  cases h with
  | blank actor => exact .blank actor
  | ofRows h => exact .ofRows h

theorem addRow_authored {token : String} (h : s.addRow token row = .ok next)
    (hs : ∀ e ∈ s.events, e.dynamic = false) : ∀ e ∈ next.events, e.dynamic = false := by
  obtain ⟨event, ⟨minute, -, hevent⟩, rfl⟩ := addRow_eq_ok_iff.mp h
  intro e he
  rcases mem_insertEvent.mp he with rfl | he
  · exact ScheduleEvent.ofRow_dynamic hevent
  · exact hs e he

theorem Authored.not_dynamic (h : s.Authored) : ∀ e ∈ s.events, e.dynamic = false := by
  cases h with
  | blank actor => exact List.forall_mem_nil _
  | ofRows h =>
    exact foldlM_keeps (P := fun s : Schedule => ∀ e ∈ s.events, e.dynamic = false)
      (ofRows_eq_ok_iff.mp h).1 (fun hadd hs => addRow_authored hadd hs) (List.forall_mem_nil _)

theorem Authored.clearDynamic (h : s.Authored) : s.clearDynamic = s := by
  have hkept : s.events.filter (fun e => !e.dynamic) = s.events := by
    rw [List.filter_eq_self]
    intro e he
    rw [h.not_dynamic e he]
    rfl
  rw [Schedule.clearDynamic, hkept]

theorem Authored.dynamicCount (h : s.Authored) : s.dynamicCount = 0 := by
  rw [← h.clearDynamic]
  exact dynamicCount_clearDynamic s

/-- Whatever is put into an authored schedule and taken out of it again, its events stand in order,
a new event goes between those that begin no later and those that begin later, what is refused
leaves no trace, and a clearing takes out what was put in since the last one and leaves the schedule
as it was authored. -/
theorem edits_keep_authored (hs : s.Authored) (edits : List Edit) :
    let t := (s.editAll edits).2
    InOrder t.events ∧
    (∀ minute row next, t.insertDynamic minute row = .ok next → ∃ event front back,
      ScheduleEvent.ofRow minute true row = .ok event ∧ t.events = front ++ back ∧
      next = { t with events := front ++ event :: back } ∧
      (∀ e ∈ front, e.minute ≤ minute) ∧ ∀ e ∈ back, minute < e.minute) ∧
    (∀ minute row fault, t.insertDynamic minute row = .error fault → ∀ later,
      (s.editAll (edits ++ Edit.insert minute row :: later)).2 = (s.editAll (edits ++ later)).2) ∧
    t.clear = ((s.editAll edits).1.foldl Answer.tally 0, s) := by
  intro t
  have hinOrder : InOrder t.events := editAll_inOrder edits hs.built.inOrder
  refine ⟨hinOrder, ?_, ?_, ?_⟩
  · intro minute row next hnext
    obtain ⟨event, hevent, rfl⟩ := insertDynamic_eq_ok_iff.mp hnext
    have hminute := ScheduleEvent.ofRow_minute hevent
    obtain ⟨front, back, hevents, hinsert, hfront, hback⟩ :=
      insertEvent_eq_append event hinOrder
    rw [hminute] at hfront hback
    exact ⟨event, front, back, hevent, hevents, by rw [push, hinsert], hfront, hback⟩
  · intro minute row fault hfault later
    have hsame : (t.edit (.insert minute row)).2 = t := by rw [edit_insert_of_error hfault]
    rw [editAll_append, editAll_append, editAll_cons, hsame]
  · have hremoved := editAll_dynamicCount s edits
    rw [hs.dynamicCount] at hremoved
    refine Prod.ext ((clear_fst t).trans hremoved) ?_
    exact (editAll_clearDynamic s edits).trans hs.clearDynamic

/-- After a clearing and a refused insertion, the one event put in since stands behind the authored
one of the same minute and is all that the next clearing takes out. -/
theorem nap_behind_opening :
    let row : String → ScheduleRow := fun action => ⟨action, none, none, none, none, none, none⟩
    let s : Schedule := ⟨"innkeeper", [⟨360, row "open", none, [], false⟩]⟩
    let edits : List Edit := [.insert 360 (row "greet"), .insert 30 (row "wake"), .clear,
      .insert 360 (row " "), .insert 360 (row "nap")]
    let t := (s.editAll edits).2
    s.Authored ∧ t.events = s.events ++ [⟨360, row "nap", none, [], true⟩] ∧
      InOrder t.events ∧ t.clear = (1, s) := by
  intro row s edits t
  have hrows : ofRows "innkeeper" (.ofList [("06:00", row "open")]) = .ok s :=
    toOption_eq_some_iff.mp (by decide +kernel)
  have hs : s.Authored := .ofRows hrows
  obtain ⟨hinOrder, -, -, hclear⟩ := edits_keep_authored hs edits
  have hanswers : (s.editAll edits).1.foldl Answer.tally 0 = 1 := by decide +kernel
  exact ⟨hs, by decide +kernel, hinOrder, hclear.trans (by rw [hanswers])⟩

end Schedule

end StoryEngine
