import StoryEngine.Proofs.Schedule.Edits
import StoryEngine.Proofs.Schedule.LookBack
import StoryEngine.Proofs.Schedule.Repeats

/-! # Telling activations apart

The tracker knows an activation by the minute at which it began, cut off at zero, and by whether its
event was put in at run time. What an edit does to the event is followed here by its place in the
table, and with that the activations that the tracker takes for one can be named: those of two
runtime events, and those of two authored events in cycles of different lengths.
-/

namespace StoryEngine

set_option autoImplicit false

namespace Schedule

/-- How many authored events stand in front of an index. -/
def authoredBefore (events : List ScheduleEvent) (i : Nat) : Nat :=
  (events.take i).countP fun e => !e.dynamic

/-- The index of an event after an edit that leaves it in the table. -/
def placeAfter (s : Schedule) (i : Nat) : Edit → Option Nat
  | .insert minute row =>
    match s.insertDynamic minute row with
    | .ok _ => some (movedTo s.events minute i)
    | .error _ => some i
  | .clear => if s.events[i]?.any (·.dynamic) then none else some (authoredBefore s.events i)

def placeAfterAll (s : Schedule) (i : Nat) : List Edit → Option Nat
  | [] => some i
  | e :: rest => (s.placeAfter i e).bind fun j => (s.edit e).2.placeAfterAll j rest

section

variable {s : Schedule} {event : ScheduleEvent} {i j : Nat}

theorem movedTo_append {front back : List ScheduleEvent} {minute : Nat}
    (hfront : ∀ e ∈ front, e.minute ≤ minute) (hback : ∀ e ∈ back, minute < e.minute) (i : Nat) :
    movedTo (front ++ back) minute i = if i < front.length then i else i + 1 := by
  have hcount : begunBy (front ++ back) minute = front.length := by
    have hall : begunBy front minute = front.length :=
      List.countP_eq_length.mpr fun e he => by simpa using hfront e he
    rw [begunBy, List.countP_append]
    exact congrArg₂ (· + ·) hall (begunBy_eq_zero hback)
  rw [movedTo, hcount]

theorem authoredBefore_insertEvent {new : ScheduleEvent} (hnew : new.dynamic = true)
    {events : List ScheduleEvent} (hs : InOrder events) (i : Nat) :
    authoredBefore (insertEvent new events) (movedTo events new.minute i) =
      authoredBefore events i := by
  obtain ⟨front, back, rfl, hinsert, hfront, hback⟩ := insertEvent_eq_append new hs
  rw [hinsert, movedTo_append hfront hback, authoredBefore, authoredBefore]
  split
  · next hlt =>
    rw [List.take_append_of_le_length (Nat.le_of_lt hlt),
      List.take_append_of_le_length (Nat.le_of_lt hlt)]
  · next hge =>
    obtain ⟨steps, rfl⟩ := Nat.exists_eq_add_of_le (Nat.le_of_not_lt hge)
    rw [Nat.add_assoc, List.take_length_add_append, List.take_length_add_append,
      List.take_succ_cons]
    simp [List.countP_append, hnew]

/-- In the authored table an authored event stands behind as many as before. -/
theorem getElem?_clearDynamic (hi : s.events[i]? = some event) (hauthored : event.dynamic = false) :
    s.clearDynamic.events[authoredBefore s.events i]? = some event ∧
      authoredBefore s.clearDynamic.events (authoredBefore s.events i) =
        authoredBefore s.events i := by
  obtain ⟨hlt, hget⟩ := List.getElem?_eq_some_iff.mp hi
  have hkept : s.clearDynamic.events = (s.events.take i).filter (fun e => !e.dynamic) ++
      event :: (s.events.drop (i + 1)).filter fun e => !e.dynamic :=
    calc s.events.filter (fun e => !e.dynamic)
      _ = (s.events.take i ++ s.events.drop i).filter fun e => !e.dynamic := by
        rw [List.take_append_drop]
      _ = _ := by
        rw [List.filter_append, List.drop_eq_getElem_cons hlt, hget,
          List.filter_cons_of_pos (by simp [hauthored])]
  have hrank : authoredBefore s.events i =
      ((s.events.take i).filter fun e => !e.dynamic).length := List.countP_eq_length_filter
  rw [hkept, hrank]
  refine ⟨by simp, ?_⟩
  rw [authoredBefore, List.take_left, List.countP_filter, List.countP_eq_length_filter]
  simp

theorem placeAfter_getElem? (hs : InOrder s.events) {e : Edit} (hi : s.events[i]? = some event)
    (hj : s.placeAfter i e = some j) : (s.edit e).2.events[j]? = some event := by
  rcases edit_cases s e with ⟨minute, row, new, rfl, hnew, hinsert, hedit⟩ |
    ⟨minute, row, fault, rfl, hfault, hedit⟩ | ⟨rfl, hedit⟩
  · obtain rfl := ScheduleEvent.ofRow_minute hnew
    simp only [placeAfter, hinsert, Option.some.injEq] at hj
    rw [hedit, ← hj]
    exact (getElem?_insertEvent_movedTo hs new i).trans hi
  · simp only [placeAfter, hfault, Option.some.injEq] at hj
    rw [hedit, ← hj]
    exact hi
  · simp only [placeAfter, hi, Option.any_some] at hj
    split at hj
    · cases hj
    · next hauthored =>
      cases hj
      rw [hedit]
      exact (getElem?_clearDynamic hi (by simpa using hauthored)).1

/-- An authored event stays, with as many authored ones in front of it. -/
theorem placeAfter_authored (hs : InOrder s.events) (e : Edit) (hi : s.events[i]? = some event)
    (hauthored : event.dynamic = false) : ∃ j, s.placeAfter i e = some j ∧
      authoredBefore (s.edit e).2.events j = authoredBefore s.events i := by
  rcases edit_cases s e with ⟨minute, row, new, rfl, hnew, hinsert, hedit⟩ |
    ⟨minute, row, fault, rfl, hfault, hedit⟩ | ⟨rfl, hedit⟩
  · obtain rfl := ScheduleEvent.ofRow_minute hnew
    refine ⟨movedTo s.events new.minute i, by simp only [placeAfter, hinsert], ?_⟩
    rw [hedit]
    exact authoredBefore_insertEvent (ScheduleEvent.ofRow_dynamic hnew) hs i
  · exact ⟨i, by simp only [placeAfter, hfault], by rw [hedit]⟩
  · refine ⟨authoredBefore s.events i, by simp [placeAfter, hi, hauthored], ?_⟩
    rw [hedit]
    exact (getElem?_clearDynamic hi hauthored).2

theorem placeAfterAll_getElem? (hs : InOrder s.events) (edits : List Edit)
    (hi : s.events[i]? = some event) (hj : s.placeAfterAll i edits = some j) :
    (s.editAll edits).2.events[j]? = some event := by
  induction edits generalizing s i with
  | nil =>
    cases hj
    exact hi
  | cons e rest ih =>
    obtain ⟨k, hk, hj⟩ := Option.bind_eq_some_iff.mp hj
    rw [editAll_cons]
    exact ih (edit_inOrder e hs) (placeAfter_getElem? hs hi hk) hj

theorem placeAfterAll_authored (hs : InOrder s.events) (edits : List Edit)
    (hi : s.events[i]? = some event) (hauthored : event.dynamic = false) :
    ∃ j, s.placeAfterAll i edits = some j ∧
      authoredBefore (s.editAll edits).2.events j = authoredBefore s.events i := by
  induction edits generalizing s i with
  | nil => exact ⟨i, rfl, rfl⟩
  | cons e rest ih =>
    obtain ⟨k, hk, hrank⟩ := placeAfter_authored hs e hi hauthored
    rw [editAll_cons]
    obtain ⟨j, hj, hrank'⟩ := ih (edit_inOrder e hs) (placeAfter_getElem? hs hi hk)
    refine ⟨j, ?_, hrank'.trans hrank⟩
    rw [placeAfterAll, hk]
    exact hj

theorem authoredBefore_succ {events : List ScheduleEvent} (hi : events[i]? = some event)
    (hauthored : event.dynamic = false) :
    authoredBefore events (i + 1) = authoredBefore events i + 1 := by
  rw [authoredBefore, authoredBefore, List.take_add_one, hi, List.countP_append]
  simp [hauthored]

theorem authoredBefore_lt {events : List ScheduleEvent} (hi : events[i]? = some event)
    (hauthored : event.dynamic = false) (h : i < j) :
    authoredBefore events i < authoredBefore events j :=
  calc authoredBefore events i
    _ < authoredBefore events (i + 1) := by
      rw [authoredBefore_succ hi hauthored]
      exact Nat.lt_succ_self _
    _ ≤ authoredBefore events j := (List.take_sublist_take_left h).countP_le

/-- No two authored events have equally many in front of them. -/
theorem authoredBefore_inj {events : List ScheduleEvent} {event' : ScheduleEvent}
    (hi : events[i]? = some event) (hj : events[j]? = some event')
    (hauthored : event.dynamic = false) (hauthored' : event'.dynamic = false)
    (h : authoredBefore events i = authoredBefore events j) : i = j := by
  rcases Nat.lt_trichotomy i j with hlt | heq | hlt
  · exact absurd h (Nat.ne_of_lt (authoredBefore_lt hi hauthored hlt))
  · exact heq
  · exact absurd h (Nat.ne_of_gt (authoredBefore_lt hj hauthored' hlt))

end

section

variable {s : Schedule} {event event' : ScheduleEvent} {edits : List Edit}

theorem take_begunBy {events : List ScheduleEvent} (hs : InOrder events) (minute : Nat) :
    events.take (begunBy events minute) = events.filter fun e => e.minute ≤ minute := by
  induction events with
  | nil => rfl
  | cons first rest ih =>
    obtain ⟨hfirst, hrest⟩ := List.pairwise_cons.mp hs
    rw [begunBy_cons]
    split
    · next hle => rw [List.take_succ_cons, ih hrest, List.filter_cons_of_pos (by simpa using hle)]
    · next hahead =>
      rw [List.filter_cons_of_neg (by simpa using hahead), ← ih hrest]
      have hnone : begunBy rest minute = 0 := begunBy_eq_zero fun e he => by
        have := hfirst e he
        omega
      rw [hnone]
      rfl

theorem begunBy_clearDynamic (hs : InOrder s.events) (minute : Nat) :
    begunBy s.clearDynamic.events minute = authoredBefore s.events (begunBy s.events minute) := by
  rw [authoredBefore, take_begunBy hs, List.countP_filter, begunBy, clearDynamic,
    List.countP_filter]
  exact List.countP_congr fun e _ => by rw [Bool.and_comm]

/-- Up to its own minute, the active event is the last authored one that has begun. -/
theorem IsActive.authoredBefore_add_one (hs : InOrder s.events) {minute i since : Nat}
    (h : IsActive s minute i event since) (hauthored : event.dynamic = false) :
    authoredBefore s.events i + 1 = begunBy s.clearDynamic.events event.minute := by
  have hself := (lt_begunBy_iff hs h.getElem?).mpr (Nat.le_refl event.minute)
  have hlast := begunBy_mono s.events (Nat.le_add_right event.minute since)
  rw [h.begunBy_eq hs] at hlast
  rw [begunBy_clearDynamic hs, ← authoredBefore_succ h.getElem? hauthored]
  congr 1
  omega

/-- What began in the cycle before is the last event of the table. -/
theorem IsActive.getLast?_eq (hs : InOrder s.events) {minute i since : Nat}
    (h : IsActive s minute i event since) (hahead : minute < event.minute) :
    s.events.getLast? = some event := by
  cases h with
  | begun hevent hi =>
    have hbegun := (lt_begunBy_iff hs hevent).mp (by omega : i < begunBy s.events minute)
    omega
  | wrapped hevent hi _ =>
    rw [List.getLast?_eq_getElem?, hi]
    exact hevent

theorem editAll_actor (s : Schedule) (edits : List Edit) : (s.editAll edits).2.actor = s.actor := by
  have hsame := congrArg (fun t : Schedule => t.actor) (editAll_clearDynamic s edits)
  exact hsame

theorem mem_editAll_of_authored (hauthored : event.dynamic = false) :
    event ∈ (s.editAll edits).2.events ↔ event ∈ s.events := by
  have hsame := congrArg (event ∈ ·.events) (editAll_clearDynamic s edits)
  simpa [clearDynamic, List.mem_filter, hauthored] using hsame

/-- The moment at which the active event began, negative if that was before the clock did. -/
def Reading.trigger (r : Reading s) : Int := r.turns.current - r.status.minutesSinceStart

/-- An event that began with the clock or later began at its own minute of the cycle. One that began
before is the last of all, and none begins with the cycle. -/
theorem Reading.trigger_cases (hs : InOrder s.events) (r : Reading s)
    (hevent : s.events[r.status.eventIndex]? = some event) :
    (r.trigger = r.status.activationMinute ∧
        r.status.activationMinute % s.cycleLength = event.minute) ∨
      r.status.activationMinute = 0 ∧ r.trigger = event.minute - s.cycleLength ∧
        s.events.getLast? = some event ∧ ∀ e ∈ s.events, 0 < e.minute := by
  obtain ⟨hactive, hbegan⟩ := r.isActive hevent
  unfold trigger
  rcases Nat.lt_or_ge r.turns.current r.status.minutesSinceStart with hclock | hclock
  · obtain ⟨full, hfull, hcycles⟩ := cycles_of_clock r.turns.current s.cycleLength
    have hin := minute_lt_cycleLength hs (List.mem_of_getElem? hevent)
    have hadd := hactive.since_add hs
    obtain ⟨hahead, hfirst⟩ : r.turns.current % s.cycleLength < event.minute ∧ full = 0 := by
      omega
    refine .inr ⟨by omega, by omega, hactive.getLast?_eq hs hahead, fun e he => ?_⟩
    exact Nat.zero_lt_of_lt (hactive.minute_lt hs hahead he)
  · refine .inl ⟨by omega, hactive.begunAt_mod hs ?_⟩
    omega

end

section

variable {s : Schedule} {edits : List Edit}

/-- The same event is active, and it was not triggered again. -/
def SameActivation (first : Reading s) (second : Reading (s.editAll edits).2) : Prop :=
  s.placeAfterAll first.status.eventIndex edits = some second.status.eventIndex ∧
    second.trigger = first.trigger

/-- Two activations that began in the same minute, cut off at zero, either both of runtime events,
or both of authored events that stand at different minutes of cycles of different lengths. -/
def Confused (first : Reading s) (second : Reading (s.editAll edits).2)
    (event event' : ScheduleEvent) : Prop :=
  second.status.activationMinute = first.status.activationMinute ∧
    (event.dynamic = true ∧ event'.dynamic = true ∨
      (event.dynamic = false ∧ event'.dynamic = false) ∧
        event'.minute ≠ event.minute ∧ (s.editAll edits).2.cycleLength ≠ s.cycleLength)

variable {first : Reading s} {second : Reading (s.editAll edits).2} {event event' : ScheduleEvent}

theorem place_of_same_minute (hs : InOrder s.events)
    (hevent : s.events[first.status.eventIndex]? = some event)
    (hevent' : (s.editAll edits).2.events[second.status.eventIndex]? = some event')
    (hauthored : event.dynamic = false) (hauthored' : event'.dynamic = false)
    (hminute : event'.minute = event.minute) :
    s.placeAfterAll first.status.eventIndex edits = some second.status.eventIndex := by
  have hs' := editAll_inOrder edits hs
  obtain ⟨j, hj, hrank⟩ := placeAfterAll_authored hs edits hevent hauthored
  have hkept := placeAfterAll_getElem? hs edits hevent hj
  have hfirst := (first.isActive hevent).1.authoredBefore_add_one hs hauthored
  have hsecond := (second.isActive hevent').1.authoredBefore_add_one hs' hauthored'
  rw [editAll_clearDynamic, hminute, ← hfirst] at hsecond
  rw [hj, authoredBefore_inj hkept hevent' hauthored hauthored' (by omega)]

/-- Authored events whose activations began in the same minute are told apart by the minutes of
their cycles, if these are equally long. -/
theorem sameActivation_of_authored (hs : InOrder s.events)
    (hevent : s.events[first.status.eventIndex]? = some event)
    (hevent' : (s.editAll edits).2.events[second.status.eventIndex]? = some event')
    (hauthored : event.dynamic = false) (hauthored' : event'.dynamic = false)
    (hbegan : second.status.activationMinute = first.status.activationMinute)
    (h : event'.minute = event.minute ∨ (s.editAll edits).2.cycleLength = s.cycleLength) :
    SameActivation first second := by
  have hs' := editAll_inOrder edits hs
  have hmem := List.mem_of_getElem? hevent
  have hmem' := List.mem_of_getElem? hevent'
  have hplace := place_of_same_minute hs hevent hevent' hauthored hauthored'
  rcases first.trigger_cases hs hevent with ⟨htrigger, hmod⟩ | ⟨hzero, htrigger, hlast, hpos⟩ <;>
    rcases second.trigger_cases hs' hevent' with
      ⟨htrigger', hmod'⟩ | ⟨hzero', htrigger', hlast', hpos'⟩
  · refine ⟨hplace ?_, by rw [htrigger, htrigger', hbegan]⟩
    rcases h with hminute | hcycle
    · exact hminute
    · rw [← hmod', ← hmod, hbegan, hcycle]
  · -- An event at the first minute of the cycle leaves nothing of the cycle before.
    have := hpos' event ((mem_editAll_of_authored hauthored).mpr hmem)
    rw [← hbegan, hzero', Nat.zero_mod] at hmod
    omega
  · have := hpos event' ((mem_editAll_of_authored hauthored').mp hmem')
    rw [hbegan, hzero, Nat.zero_mod] at hmod'
    omega
  · -- Both are the last of their table, and so they are the last authored one.
    have hle := minute_le_of_getLast? hs ((mem_editAll_of_authored hauthored').mp hmem') hlast
    have hge := minute_le_of_getLast? hs' ((mem_editAll_of_authored hauthored).mpr hmem) hlast'
    have hminute : event'.minute = event.minute := Nat.le_antisymm hle hge
    refine ⟨hplace hminute, ?_⟩
    rw [htrigger, htrigger', cycleLength_of_getLast? hlast, cycleLength_of_getLast? hlast', hminute]

/-- What the tracker knows of two activations is the same exactly if they are confused. -/
theorem confused_iff (hs : InOrder s.events)
    (hevent : s.events[first.status.eventIndex]? = some event)
    (hevent' : (s.editAll edits).2.events[second.status.eventIndex]? = some event')
    (hother : ¬SameActivation first second) :
    Confused first second event event' ↔
      first.status.activationMinute = second.status.activationMinute ∧
        event.dynamic = event'.dynamic := by
  constructor
  · rintro ⟨hbegan, ⟨hdynamic, hdynamic'⟩ | ⟨⟨hauthored, hauthored'⟩, -⟩⟩
    · exact ⟨hbegan.symm, by rw [hdynamic, hdynamic']⟩
    · exact ⟨hbegan.symm, by rw [hauthored, hauthored']⟩
  · rintro ⟨hbegan, hkind⟩
    refine ⟨hbegan.symm, ?_⟩
    cases hauthored : event.dynamic with
    | true => exact .inl ⟨rfl, by rw [← hkind, hauthored]⟩
    | false =>
      have hauthored' : event'.dynamic = false := by rw [← hkind, hauthored]
      refine .inr ⟨⟨rfl, hauthored'⟩, fun hminute => hother ?_, fun hcycle => hother ?_⟩
      · exact sameActivation_of_authored hs hevent hevent' hauthored hauthored' hbegan.symm
          (.inl hminute)
      · exact sameActivation_of_authored hs hevent hevent' hauthored hauthored' hbegan.symm
          (.inr hcycle)

end

end Schedule

namespace ScheduleTracker

open Schedule (Edit Reading SameActivation Confused)

/-- The tracker after it was asked about a list of schedules, each with a status. -/
def askAll (tracker : ScheduleTracker) (calls : List (Schedule × ScheduleStatus)) :
    ScheduleTracker :=
  calls.foldl (fun tracker call => (tracker.dueRepeats call.1 call.2).2) tracker

section

variable {tracker : ScheduleTracker} {s : Schedule} {status : ScheduleStatus} {actor : String}

theorem get?_dueRepeats_of_ne (h : s.actor ≠ actor) :
    (tracker.dueRepeats s status).2.get? actor = tracker.get? actor := by
  unfold dueRepeats
  split
  · rfl
  · rw [StringMap.get?_insert, if_neg (Ne.symm h)]

theorem get?_askAll_of_ne {calls : List (Schedule × ScheduleStatus)}
    (h : ∀ call ∈ calls, call.1.actor ≠ actor) :
    (tracker.askAll calls).get? actor = tracker.get? actor := by
  induction calls generalizing tracker with
  | nil => rfl
  | cons call rest ih =>
    obtain ⟨hcall, hrest⟩ := List.forall_mem_cons.mp h
    exact (ih hrest).trans (get?_dueRepeats_of_ne hcall)

end

/-- For another activation than that of the call before, whatever edits and calls for other actors
lie between the two, the tracker starts counting from zero exactly if it has nothing counted yet or
does not confuse the two activations. -/
theorem counts_from_zero_iff {s : Schedule} (hs : s.Built) {edits : List Edit} (first : Reading s)
    (second : Reading (s.editAll edits).2) {event event' : ScheduleEvent} {interval : Nat}
    (hevent : s.events[first.status.eventIndex]? = some event)
    (hevent' : (s.editAll edits).2.events[second.status.eventIndex]? = some event')
    (hinterval : event'.row.repeatInterval = some interval)
    (hother : ¬SameActivation first second)
    (tracker : ScheduleTracker) (others : List (Schedule × ScheduleStatus))
    (hothers : ∀ call ∈ others, call.1.actor ≠ s.actor) :
    let asked := (tracker.dueRepeats s first.status).2
    let answer := (asked.askAll others).dueRepeats (s.editAll edits).2 second.status
    (answer.1 = (match event'.row.repeatCount with
        | none => second.status.minutesSinceStart / interval
        | some most => min most (second.status.minutesSinceStart / interval)) ∧
      answer.2.fired s.actor = answer.1) ↔
    asked.fired s.actor = 0 ∨ ¬Confused first second event event' := by
  intro asked answer
  have hactor := Schedule.editAll_actor s edits
  have hasked := (dueRepeats_of_event hevent tracker).2
  have hlater : (asked.askAll others).get? s.actor =
      some ⟨⟨first.status.activationMinute, event.dynamic⟩, asked.fired s.actor⟩ := by
    rw [get?_askAll_of_ne hothers, hasked, fired_of_get? hasked]
  have hstart : (asked.askAll others).countFor s.actor
        ⟨second.status.activationMinute, event'.dynamic⟩ = 0 ↔
      asked.fired s.actor = 0 ∨ ¬Confused first second event event' := by
    rw [Schedule.confused_iff hs.inOrder hevent hevent' hother]
    simp only [countFor, hlater, Activation.mk.injEq]
    split
    · next hsame => exact (or_iff_left (not_not.mpr hsame)).symm
    · next hdiff => exact iff_of_true rfl (.inr hdiff)
  obtain ⟨hdue, hnow⟩ := dueRepeats_of_event hevent' (asked.askAll others)
  rw [hactor] at hdue hnow
  have hanew : answer.1 = owed event'.row second.status.minutesSinceStart ∧
        answer.2.fired s.actor = answer.1 ↔
      (asked.askAll others).countFor s.actor
        ⟨second.status.activationMinute, event'.dynamic⟩ = 0 := by
    rw [fired_of_get? hnow, hdue]
    omega
  rw [owed_of_interval hinterval] at hanew
  exact hanew.trans hstart

/-- A runtime event on the third day moves the clock from the second morning of the cycle to the
first, and the drill of that morning is taken for the watch that has fired already. -/
theorem drill_taken_for_watch :
    let row : String → Option Nat → ScheduleRow := fun action interval =>
      ⟨action, none, none, none, none, interval, none⟩
    let drill : ScheduleEvent := ⟨480, row "drill" (some 5), none, [], false⟩
    let watch : ScheduleEvent := ⟨1920, row "watch" (some 10), none, [], false⟩
    let s : Schedule := ⟨"guard", [drill, watch]⟩
    let edits : List Edit := [.insert 2900 (row "feast" none)]
    ∃ (first : Reading s) (second : Reading (s.editAll edits).2),
      first.turns = .startingAt 4825 ∧ second.turns = .startingAt 4825 ∧
      s.Built ∧ ¬SameActivation first second ∧ Confused first second watch drill ∧
      let asked := (ScheduleTracker.dueRepeats ∅ s first.status).2
      let answer := asked.dueRepeats (s.editAll edits).2 second.status
      asked.fired "guard" = 2 ∧
        ¬(answer.1 = second.status.minutesSinceStart / 5 ∧ answer.2.fired "guard" = answer.1) := by
  intro row drill watch s edits
  have hs : s.Built := .ofRows (toOption_eq_some_iff.mp (by decide +kernel :
    (Schedule.ofRows "guard" (.ofList [("08:00", drill.row), ("1:08:00", watch.row)])).toOption =
      some s))
  let first : Reading s := ⟨.startingAt 4825, 5, ⟨1, 1920, 1945, 25, 4800, 0, 5⟩, by decide +kernel⟩
  let second : Reading (s.editAll edits).2 :=
    ⟨.startingAt 4825, 5, ⟨0, 480, 505, 25, 4800, 0, 5⟩, by decide +kernel⟩
  have hother : ¬SameActivation first second := by
    rintro ⟨hplace, -⟩
    exact absurd hplace (by decide +kernel)
  have hconfused : Confused first second watch drill :=
    ⟨rfl, .inr ⟨⟨rfl, rfl⟩, by decide, by decide +kernel⟩⟩
  have hdrill : (s.editAll edits).2.events[second.status.eventIndex]? = some drill := by
    decide +kernel
  have hiff := counts_from_zero_iff hs first second rfl hdrill rfl hother ∅ [] (List.forall_mem_nil _)
  have hfired : (ScheduleTracker.dueRepeats ∅ s first.status).2.fired "guard" = 2 := by
    decide +kernel
  refine ⟨first, second, rfl, rfl, hs, hother, hconfused, hfired, ?_⟩
  intro hanew
  rcases hiff.mp hanew with hnone | hdistinct
  · cases hfired.symm.trans hnone
  · exact hdistinct hconfused

/-- Two runtime events of one minute: when the second takes the place of the first, its repeats are
counted on from those of the first. -/
theorem volley_counted_for_bark :
    let row : String → Option Nat → ScheduleRow := fun action interval =>
      ⟨action, none, none, none, none, interval, none⟩
    let opening : Schedule := ⟨"baker", [⟨360, row "open" none, none, [], false⟩]⟩
    let s : Schedule :=
      ⟨"baker", opening.events ++ [⟨480, row "shoot" (some 10), none, [], true⟩]⟩
    let next : Schedule := ⟨"baker", s.events ++ [⟨480, row "bark" (some 5), none, [], true⟩]⟩
    let before : ScheduleStatus := ⟨1, 480, 505, 25, 480, 0, 5⟩
    let after : ScheduleStatus := ⟨2, 480, 505, 25, 480, 0, 5⟩
    let asked := ScheduleTracker.dueRepeats ∅ s before
    Schedule.ofRows "baker" (.ofList [("06:00", row "open" none)]) = .ok opening ∧
      opening.insertDynamic 480 (row "shoot" (some 10)) = .ok s ∧
      s.insertDynamic 480 (row "bark" (some 5)) = .ok next ∧
      next.events[before.eventIndex]? = s.events[before.eventIndex]? ∧
      s.resolve (.startingAt 505) 5 = some before ∧ next.resolve (.startingAt 505) 5 = some after ∧
      asked.1 = 2 ∧ (asked.2.dueRepeats next after).1 = 3 ∧ after.minutesSinceStart / 5 = 5 := by
  intro row opening s next before after asked
  have hopening : Schedule.ofRows "baker" (.ofList [("06:00", row "open" none)]) = .ok opening :=
    toOption_eq_some_iff.mp (by decide +kernel)
  have hs : opening.insertDynamic 480 (row "shoot" (some 10)) = .ok s :=
    toOption_eq_some_iff.mp (by decide +kernel)
  have hnext : s.insertDynamic 480 (row "bark" (some 5)) = .ok next :=
    toOption_eq_some_iff.mp (by decide +kernel)
  exact ⟨hopening, hs, hnext, rfl, by decide +kernel, by decide +kernel, by decide +kernel,
    by decide +kernel, by decide +kernel⟩

end ScheduleTracker

end StoryEngine
