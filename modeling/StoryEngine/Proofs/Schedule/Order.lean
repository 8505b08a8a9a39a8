import StoryEngine.Proofs.Result
import StoryEngine.Schedule.Resolve

/-! # The order of a schedule

However a schedule was put together, its events stand in the order of their minutes, and a new event
goes behind all that begin no later. The events that have begun by some minute are therefore
a front part of the list, and its length finds the active event.
-/

namespace StoryEngine

set_option autoImplicit false

theorem ScheduleEvent.ofRow_eq_ok_iff {minute : Nat} {dynamic : Bool} {row : ScheduleRow}
    {event : ScheduleEvent} : ofRow minute dynamic row = .ok event ↔ Text.trim row.action ≠ "" ∧
      readFacing row = .ok event.facing ∧ readPatrol row = .ok event.patrol ∧
      event.minute = minute ∧ event.row = row ∧ event.dynamic = dynamic := by
  unfold ofRow
  split
  · next hblank => exact iff_of_false nofun fun h => h.1 hblank
  · next haction =>
    rw [and_iff_right haction]
    constructor
    · intro h
      obtain ⟨facing, hfacing, h⟩ := bind_eq_ok_iff.mp h
      obtain ⟨patrol, hpatrol, h⟩ := bind_eq_ok_iff.mp h
      cases h
      exact ⟨hfacing, hpatrol, rfl, rfl, rfl⟩
    · rintro ⟨hfacing, hpatrol, rfl, rfl, rfl⟩
      exact bind_eq_ok_iff.mpr ⟨_, hfacing, bind_eq_ok_iff.mpr ⟨_, hpatrol, rfl⟩⟩

namespace Schedule

/-- The schedules that can be put together. -/
inductive Built : Schedule → Prop where
  | blank (actor : String) : Built (blank actor)
  | ofRows {actor : String} {rows : StringMap ScheduleRow} {s : Schedule}
      (h : ofRows actor rows = .ok s) : Built s
  | insertDynamic {s next : Schedule} {minute : Nat} {row : ScheduleRow} (hs : Built s)
      (h : s.insertDynamic minute row = .ok next) : Built next
  | clearDynamic {s : Schedule} (hs : Built s) : Built s.clearDynamic
  | rename {s : Schedule} (hs : Built s) (actor : String) : Built { s with actor }

def InOrder (events : List ScheduleEvent) : Prop :=
  events.Pairwise fun a b => a.minute ≤ b.minute

/-- How many events begin no later than a minute. -/
def begunBy (events : List ScheduleEvent) (minute : Nat) : Nat :=
  events.countP fun e => e.minute ≤ minute

theorem begunBy_le_length (events : List ScheduleEvent) (minute : Nat) :
    begunBy events minute ≤ events.length :=
  List.countP_le_length

theorem begunBy_mono (events : List ScheduleEvent) {minute later : Nat} (h : minute ≤ later) :
    begunBy events minute ≤ begunBy events later := by
  refine List.countP_mono_left fun e _ he => ?_
  simp only [decide_eq_true_eq] at he ⊢
  omega

theorem begunBy_cons (event : ScheduleEvent) (events : List ScheduleEvent) (minute : Nat) :
    begunBy (event :: events) minute =
      begunBy events minute + if event.minute ≤ minute then 1 else 0 := by
  simp only [begunBy, List.countP_cons, decide_eq_true_eq]

theorem begunBy_eq_zero {events : List ScheduleEvent} {minute : Nat}
    (h : ∀ e ∈ events, minute < e.minute) : begunBy events minute = 0 := by
  refine List.countP_eq_zero.mpr fun e he => ?_
  have := h e he
  simp only [decide_eq_true_eq]
  omega

/-- The events that have begun come first. -/
theorem lt_begunBy_iff {events : List ScheduleEvent} (hs : InOrder events) {i minute : Nat}
    {event : ScheduleEvent} (hi : events[i]? = some event) :
    i < begunBy events minute ↔ event.minute ≤ minute := by
  induction events generalizing i with
  | nil => cases hi
  | cons first rest ih =>
    obtain ⟨hfirst, hrest⟩ := List.pairwise_cons.mp hs
    rw [begunBy_cons]
    cases i with
    | zero =>
      cases hi
      split
      · next hbegun => exact iff_of_true (Nat.succ_pos _) hbegun
      · next hahead =>
        refine iff_of_false ?_ hahead
        have hnone : begunBy rest minute = 0 := begunBy_eq_zero fun e he => by
          have := hfirst e he
          omega
        omega
    | succ i =>
      have hlater := ih hrest (i := i) hi
      split
      · omega
      · have := hfirst event (List.mem_of_getElem? hi)
        omega

theorem length_insertEvent (event : ScheduleEvent) (events : List ScheduleEvent) :
    (insertEvent event events).length = events.length + 1 := by
  induction events with
  | nil => rfl
  | cons other rest ih =>
    rw [insertEvent]
    split
    · exact congrArg (· + 1) ih
    · rfl

theorem countP_insertEvent (p : ScheduleEvent → Bool) (event : ScheduleEvent)
    (events : List ScheduleEvent) :
    (insertEvent event events).countP p = (event :: events).countP p := by
  induction events with
  | nil => rfl
  | cons other rest ih =>
    rw [insertEvent]
    split
    · rw [List.countP_cons, ih]
      simp only [List.countP_cons]
      omega
    · rfl

theorem begunBy_insertEvent (event : ScheduleEvent) (events : List ScheduleEvent) (minute : Nat) :
    begunBy (insertEvent event events) minute =
      begunBy events minute + if event.minute ≤ minute then 1 else 0 := by
  rw [begunBy, countP_insertEvent]
  exact begunBy_cons event events minute

theorem insertEvent_eq_insertIdx {event : ScheduleEvent} {events : List ScheduleEvent}
    (hs : InOrder events) :
    insertEvent event events = events.insertIdx (begunBy events event.minute) event := by
  induction events with
  | nil => rfl
  | cons other rest ih =>
    rw [insertEvent]
    split
    · next hle => rw [begunBy_cons, if_pos hle, List.insertIdx_succ_cons, ih hs.of_cons]
    · next hlt =>
      have hnone : ¬0 < begunBy (other :: rest) event.minute := by
        rw [lt_begunBy_iff hs rfl]
        exact hlt
      rw [Nat.eq_zero_of_not_pos hnone, List.insertIdx_zero]

theorem mem_insertEvent {event e : ScheduleEvent} {events : List ScheduleEvent} :
    e ∈ insertEvent event events ↔ e = event ∨ e ∈ events := by
  induction events with
  | nil => exact List.mem_cons
  | cons other rest ih =>
    rw [insertEvent]
    split
    · rw [List.mem_cons, ih, List.mem_cons]
      exact or_left_comm
    · exact List.mem_cons

theorem inOrder_insertEvent {event : ScheduleEvent} {events : List ScheduleEvent}
    (hs : InOrder events) : InOrder (insertEvent event events) := by
  induction events with
  | nil => exact List.pairwise_singleton _ _
  | cons other rest ih =>
    obtain ⟨hother, hrest⟩ := List.pairwise_cons.mp hs
    rw [insertEvent]
    split
    · next hle =>
      refine List.pairwise_cons.mpr ⟨fun e he => ?_, ih hrest⟩
      rcases mem_insertEvent.mp he with rfl | he
      · exact hle
      · exact hother e he
    · next hlt =>
      refine List.pairwise_cons.mpr ⟨fun e he => ?_, hs⟩
      rcases List.mem_cons.mp he with rfl | he
      · omega
      · have := hother e he
        omega

section

variable {event : ScheduleEvent} {events : List ScheduleEvent} {i : Nat}

theorem getElem?_insertEvent_self (hs : InOrder events) :
    (insertEvent event events)[begunBy events event.minute]? = some event := by
  rw [insertEvent_eq_insertIdx hs, List.getElem?_insertIdx_self,
    if_pos (begunBy_le_length events event.minute)]

theorem getElem?_insertEvent_of_lt (hs : InOrder events) (hi : i < begunBy events event.minute) :
    (insertEvent event events)[i]? = events[i]? := by
  rw [insertEvent_eq_insertIdx hs, List.getElem?_insertIdx_of_lt hi]

theorem getElem?_insertEvent_succ (hs : InOrder events) (hi : begunBy events event.minute ≤ i) :
    (insertEvent event events)[i + 1]? = events[i]? := by
  rw [insertEvent_eq_insertIdx hs, List.getElem?_insertIdx_of_gt (Nat.lt_succ_of_le hi)]
  rfl

end

/-- The event that a row under a time token becomes in a table. -/
def Authors (token : String) (row : ScheduleRow) (event : ScheduleEvent) : Prop :=
  ∃ minute, TimeToken.parse token = .ok minute ∧ ScheduleEvent.ofRow minute false row = .ok event

theorem addRow_eq_ok_iff {s next : Schedule} {token : String} {row : ScheduleRow} :
    s.addRow token row = .ok next ↔ ∃ event, Authors token row event ∧ s.push event = next := by
  simp only [addRow, bind_eq_ok_iff, mapError_eq_ok_iff]
  constructor
  · rintro ⟨minute, hminute, event, hevent, h⟩
    exact ⟨event, ⟨minute, hminute, hevent⟩, Except.ok.inj h⟩
  · rintro ⟨event, ⟨minute, hminute, hevent⟩, rfl⟩
    exact ⟨minute, hminute, event, hevent, rfl⟩

/-- The rows of a table, added in turn. -/
def addRows (s : Schedule) (entries : List (String × ScheduleRow)) :
    Except ScheduleError Schedule :=
  entries.foldlM (fun s e => addRow s e.1 e.2) s

theorem ofRows_eq_ok_iff {actor : String} {rows : StringMap ScheduleRow} {s : Schedule} :
    ofRows actor rows = .ok s ↔ (blank actor).addRows rows.toList = .ok s ∧ s.events ≠ [] := by
  rw [ofRows, bind_eq_ok_iff]
  constructor
  · rintro ⟨t, ht, h⟩
    split at h
    · cases h
    · next hne =>
      cases h
      exact ⟨ht, hne⟩
  · rintro ⟨hs, hne⟩
    refine ⟨s, hs, ?_⟩
    rw [if_neg hne]
    rfl

theorem addRow_inOrder {s next : Schedule} {token : String} {row : ScheduleRow}
    (h : s.addRow token row = .ok next) (hs : InOrder s.events) : InOrder next.events := by
  obtain ⟨event, -, rfl⟩ := addRow_eq_ok_iff.mp h
  exact inOrder_insertEvent hs

theorem insertDynamic_eq_ok_iff {s next : Schedule} {minute : Nat} {row : ScheduleRow} :
    s.insertDynamic minute row = .ok next ↔
      ∃ event, ScheduleEvent.ofRow minute true row = .ok event ∧ next = s.push event := by
  rw [insertDynamic, bind_eq_ok_iff]
  simp only [mapError_eq_ok_iff]
  refine exists_congr fun event => and_congr_right fun _ => ⟨fun h => ?_, fun h => ?_⟩
  · cases h
    rfl
  · rw [h]
    rfl

theorem Built.inOrder {s : Schedule} (h : s.Built) : InOrder s.events := by
  induction h with
  | blank actor => exact List.Pairwise.nil
  | ofRows h =>
    exact foldlM_keeps (P := fun s : Schedule => InOrder s.events) (ofRows_eq_ok_iff.mp h).1
      (fun hadd hs => addRow_inOrder hadd hs) List.Pairwise.nil
  | insertDynamic _ h ih =>
    obtain ⟨event, _, rfl⟩ := insertDynamic_eq_ok_iff.mp h
    exact inOrder_insertEvent ih
  | clearDynamic _ ih => exact List.Pairwise.filter _ ih
  | rename _ _ ih => exact ih

theorem cycleLength_of_getLast? {s : Schedule} {last : ScheduleEvent}
    (h : s.events.getLast? = some last) :
    s.cycleLength = (last.minute / minutesPerDay + 1) * minutesPerDay := by
  rw [cycleLength, h, Option.map_some, Option.getD_some]

theorem minute_le_of_getLast? {events : List ScheduleEvent} (hs : InOrder events)
    {event last : ScheduleEvent} (hevent : event ∈ events) (hlast : events.getLast? = some last) :
    event.minute ≤ last.minute := by
  obtain ⟨front, rfl⟩ := List.getLast?_eq_some_iff.mp hlast
  rcases List.mem_append.mp hevent with hfront | hevent
  · exact (List.pairwise_append.mp hs).2.2 event hfront last List.mem_cons_self
  · exact Nat.le_of_eq (congrArg ScheduleEvent.minute (List.mem_singleton.mp hevent))

theorem exists_getLast? {events : List ScheduleEvent} (hne : events ≠ []) :
    ∃ last, events.getLast? = some last :=
  ⟨_, List.getLast?_eq_some_getLast hne⟩

theorem minute_lt_cycleLength {s : Schedule} (hs : InOrder s.events) {event : ScheduleEvent}
    (hevent : event ∈ s.events) : event.minute < s.cycleLength := by
  obtain ⟨last, hlast⟩ := exists_getLast? (List.ne_nil_of_mem hevent)
  have hle := minute_le_of_getLast? hs hevent hlast
  rw [cycleLength_of_getLast? hlast, minutesPerDay]
  omega

/-- Beyond the end of the cycle every event has begun. -/
theorem begunBy_eq_length {s : Schedule} (hs : InOrder s.events) {minute : Nat}
    (hbeyond : s.cycleLength ≤ minute) : begunBy s.events minute = s.events.length := by
  refine List.countP_eq_length.mpr fun event hevent => ?_
  have hlt := minute_lt_cycleLength hs hevent
  simp only [decide_eq_true_eq]
  omega

theorem cycleLength_push {s : Schedule} (hs : InOrder s.events) (hne : s.events ≠ [])
    {event : ScheduleEvent} (hin : event.minute < s.cycleLength) :
    (s.push event).cycleLength = s.cycleLength := by
  obtain ⟨last, hlast⟩ := exists_getLast? hne
  have hevent : event ∈ (s.push event).events := mem_insertEvent.mpr (.inl rfl)
  obtain ⟨latest, hlatest⟩ := exists_getLast? (List.ne_nil_of_mem hevent)
  have hnew : InOrder (s.push event).events := inOrder_insertEvent hs
  have hevent_le := minute_le_of_getLast? hnew hevent hlatest
  have hlast_le := minute_le_of_getLast? hnew
    (mem_insertEvent.mpr (.inr (List.mem_of_getLast? hlast))) hlatest
  have hwithin : latest.minute = event.minute ∨ latest.minute = last.minute := by
    rcases mem_insertEvent.mp (List.mem_of_getLast? hlatest) with rfl | hold
    · exact .inl rfl
    · exact .inr (Nat.le_antisymm (minute_le_of_getLast? hs hold hlast) hlast_le)
  rw [cycleLength_of_getLast? hlast, minutesPerDay] at hin
  rw [cycleLength_of_getLast? hlast, cycleLength_of_getLast? hlatest, minutesPerDay]
  omega

/-- The event at an index is active at a minute of the cycle and began a number of minutes before:
it is the latest that has begun, or the last of the cycle before if none has. -/
inductive IsActive (s : Schedule) (minute : Nat) : Nat → ScheduleEvent → Nat → Prop where
  | begun {i : Nat} {event : ScheduleEvent} (hevent : s.events[i]? = some event)
      (hi : begunBy s.events minute = i + 1) : IsActive s minute i event (minute - event.minute)
  | wrapped {i : Nat} {event : ScheduleEvent} (hevent : s.events[i]? = some event)
      (hi : s.events.length = i + 1) (hnone : begunBy s.events minute = 0) :
      IsActive s minute i event (minute + s.cycleLength - event.minute)

theorem IsActive.getElem? {s : Schedule} {minute i since : Nat} {event : ScheduleEvent}
    (h : IsActive s minute i event since) : s.events[i]? = some event := by
  cases h with
  | begun hevent _ => exact hevent
  | wrapped hevent _ _ => exact hevent

/-- The active event is still the latest that has begun where it and the minutes since it began
lead, which is the minute of the cycle or, before the first event, that minute a cycle later. -/
theorem IsActive.begunBy_eq {s : Schedule} (hs : InOrder s.events) {minute i since : Nat}
    {event : ScheduleEvent} (h : IsActive s minute i event since) :
    begunBy s.events (event.minute + since) = i + 1 := by
  cases h with
  | begun hevent hi =>
    have hle : event.minute ≤ minute := (lt_begunBy_iff hs hevent).mp (by omega)
    rw [Nat.add_sub_cancel' hle, hi]
  | wrapped hevent hi hnone =>
    have hlt := minute_lt_cycleLength hs (List.mem_of_getElem? hevent)
    rw [begunBy_eq_length hs (by omega), hi]

/-- Going back from the minute of the cycle by the minutes since the active event began leads to its
minute, in this cycle or in the one before. -/
theorem IsActive.since_add {s : Schedule} (hs : InOrder s.events) {minute i since : Nat}
    {event : ScheduleEvent} (h : IsActive s minute i event since) :
    since + event.minute = minute ∨
      minute < event.minute ∧ event.minute < s.cycleLength ∧
        since + event.minute = minute + s.cycleLength := by
  cases h with
  | begun hevent hi =>
    have hbegun : event.minute ≤ minute := (lt_begunBy_iff hs hevent).mp (by omega)
    exact .inl (Nat.sub_add_cancel hbegun)
  | wrapped hevent hi hnone =>
    have hin := minute_lt_cycleLength hs (List.mem_of_getElem? hevent)
    have hahead : ¬event.minute ≤ minute := by
      rw [← lt_begunBy_iff hs hevent, hnone]
      exact Nat.not_lt_zero i
    exact .inr ⟨Nat.lt_of_not_le hahead, hin, Nat.sub_add_cancel (by omega)⟩

theorem activeAt?_isActive {s : Schedule} (hne : s.events ≠ []) (minute : Nat) :
    ∃ i event since, s.activeAt? minute = some (i, event, since) ∧
      IsActive s minute i event since := by
  unfold activeAt?
  simp only
  split
  · next hnone =>
    obtain ⟨i, hi⟩ := Nat.exists_eq_succ_of_ne_zero (mt List.length_eq_zero_iff.mp hne)
    have hlast : s.events.getLast? = s.events[i]? := by
      rw [List.getLast?_eq_getElem?, hi]
      rfl
    obtain ⟨event, hevent⟩ : ∃ event, s.events[i]? = some event :=
      ⟨_, List.getElem?_eq_getElem (by omega)⟩
    refine ⟨i, event, _, ?_, .wrapped hevent hi hnone⟩
    rw [hlast, hevent, hi]
    rfl
  · next hsome =>
    obtain ⟨i, hi⟩ := Nat.exists_eq_succ_of_ne_zero hsome
    have hlt := begunBy_le_length s.events minute
    obtain ⟨event, hevent⟩ : ∃ event, s.events[i]? = some event :=
      ⟨_, List.getElem?_eq_getElem (by rw [begunBy] at hlt; omega)⟩
    refine ⟨i, event, _, ?_, .begun hevent hi⟩
    rw [hi, Nat.succ_sub_one, hevent]
    rfl

theorem resolve_isActive {s : Schedule} (hne : s.events ≠ []) (turns : TurnLog)
    (stepMinutes : Nat) :
    ∃ i event since, IsActive s (turns.current % s.cycleLength) i event since ∧
      s.resolve turns stepMinutes = some
        ⟨i, event.minute, turns.current % s.cycleLength, since, turns.current - since,
          turns.trailingWithin since, since / stepMinutes⟩ := by
  obtain ⟨i, event, since, hactive, hisActive⟩ :=
    activeAt?_isActive hne (turns.current % s.cycleLength)
  refine ⟨i, event, since, hisActive, ?_⟩
  rw [resolve, hactive]
  rfl

end Schedule

end StoryEngine
