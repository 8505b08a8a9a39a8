import StoryEngine.Proofs.Schedule.Order
import StoryEngine.Schedule.Tracker

/-! # Inserting an event into a running schedule

A new event that is not active at once leaves the active event as it is, together with the moment at
which it began, as long as the cycle keeps its length. An event beyond the end of the cycle makes
the cycle longer, and where that puts the clock decides whether the active event began when it did
before.
-/

namespace StoryEngine

set_option autoImplicit false

namespace ScheduleEvent

theorem ofRow_minute {minute : Nat} {dynamic : Bool} {row : ScheduleRow} {event : ScheduleEvent}
    (h : ofRow minute dynamic row = .ok event) : event.minute = minute :=
  (ofRow_eq_ok_iff.mp h).2.2.2.1

end ScheduleEvent

namespace Schedule

/-- The index that an event has after another one has been put in its place. -/
def movedTo (events : List ScheduleEvent) (minute i : Nat) : Nat :=
  if i < begunBy events minute then i else i + 1

theorem getElem?_insertEvent_movedTo {events : List ScheduleEvent} (hs : InOrder events)
    (event : ScheduleEvent) (i : Nat) :
    (insertEvent event events)[movedTo events event.minute i]? = events[i]? := by
  unfold movedTo
  split
  · next hlt => exact getElem?_insertEvent_of_lt hs hlt
  · next hge => exact getElem?_insertEvent_succ hs (Nat.le_of_not_lt hge)

section

variable {s : Schedule} {new event event' : ScheduleEvent} {minute minute' i i' since since' : Nat}

theorem event_eq_of_movedTo (hs : InOrder s.events) (hevent : s.events[i]? = some event)
    (hevent' : (s.push new).events[i']? = some event')
    (hi : i' = movedTo s.events new.minute i) : event' = event := by
  subst hi
  have hsame := getElem?_insertEvent_movedTo hs new i
  exact Option.some.inj (hevent'.symm.trans (hsame.trans hevent))

/-- In a cycle that keeps its length, the active event is the new one or the same as before. -/
theorem isActive_push_within (hs : InOrder s.events) (hne : s.events ≠ [])
    (hin : new.minute < s.cycleLength) (h : IsActive s minute i event since)
    (h' : IsActive (s.push new) minute i' event' since')
    (hother : i' ≠ begunBy s.events new.minute) :
    i' = movedTo s.events new.minute i ∧ since' = since := by
  have hcycle := cycleLength_push hs hne hin
  have hcount := begunBy_insertEvent new s.events minute
  have hlength := length_insertEvent new s.events
  have hplace := begunBy_le_length s.events new.minute
  rcases h' with ⟨hevent', hi'⟩ | ⟨hevent', hi', hnone'⟩
  · rw [push, hcount] at hi'
    by_cases hle : new.minute ≤ minute
    · -- The new event has begun as well, but a later one is active.
      rw [if_pos hle] at hi'
      have hmono := begunBy_mono s.events hle
      rcases h with ⟨hevent, hi⟩ | ⟨hevent, hi, hnone⟩
      · have hmoved : i' = movedTo s.events new.minute i := by
          rw [movedTo, if_neg (by omega)]
          omega
        rw [event_eq_of_movedTo hs hevent hevent' hmoved]
        exact ⟨hmoved, rfl⟩
      · omega
    · rw [if_neg hle] at hi'
      have hmono := begunBy_mono s.events (Nat.le_of_not_le hle)
      rcases h with ⟨hevent, hi⟩ | ⟨hevent, hi, hnone⟩
      · have hmoved : i' = movedTo s.events new.minute i := by
          rw [movedTo, if_pos (by omega)]
          omega
        rw [event_eq_of_movedTo hs hevent hevent' hmoved]
        exact ⟨hmoved, rfl⟩
      · omega
  · rw [push, hcount] at hnone'
    rw [push, hlength] at hi'
    rcases h with ⟨hevent, hi⟩ | ⟨hevent, hi, hnone⟩
    · omega
    · -- Nothing has begun, so the new event is ahead and the last one is still the old one.
      have hmoved : i' = movedTo s.events new.minute i := by
        rw [movedTo, if_neg (by omega)]
        omega
      rw [event_eq_of_movedTo hs hevent hevent' hmoved, hcycle]
      exact ⟨hmoved, rfl⟩

/-- In a longer cycle, the active event is the new one, or it is the same as before exactly if the
clock stands where the event and the minutes since it began lead. -/
theorem isActive_push_beyond (hs : InOrder s.events) (hbeyond : s.cycleLength ≤ new.minute)
    (h : IsActive s minute i event since) (h' : IsActive (s.push new) minute' i' event' since')
    (hother : i' ≠ begunBy s.events new.minute) :
    i' = movedTo s.events new.minute i ∧ since' = since ↔ minute' = event.minute + since := by
  have hcount := begunBy_insertEvent new s.events minute'
  have hlength := length_insertEvent new s.events
  have hlast := begunBy_eq_length hs hbeyond
  rcases h' with ⟨hevent', hi'⟩ | ⟨hevent', hi', _⟩
  · have hmax := begunBy_le_length s.events minute'
    -- The new event is the last of all, and had it begun it would be the active one.
    have hahead : ¬new.minute ≤ minute' := by
      intro hle
      have hmono := begunBy_mono s.events hle
      rw [push, hcount, if_pos hle] at hi'
      omega
    rw [push, hcount, if_neg hahead] at hi'
    rw [push, getElem?_insertEvent_of_lt hs (by omega)] at hevent'
    have hevent := h.getElem?
    have hi := (List.getElem?_eq_some_iff.mp hevent).1
    rw [movedTo, if_pos (hlast ▸ hi)]
    constructor
    · rintro ⟨rfl, hsince⟩
      cases hevent.symm.trans hevent'
      have hbegun' := (lt_begunBy_iff hs hevent').mp (by omega : i' < begunBy s.events minute')
      omega
    · intro hclock
      have hbegun := h.begunBy_eq hs
      rw [← hclock] at hbegun
      obtain rfl : i' = i := by omega
      cases hevent.symm.trans hevent'
      exact ⟨rfl, by omega⟩
  · rw [push, hlength] at hi'
    omega

end

/-- The same event is active after an insertion, and has been since the same moment. -/
structure SamePhase (s next : Schedule) (minute : Nat) (before after : ScheduleStatus) : Prop where
  index : after.eventIndex = movedTo s.events minute before.eventIndex
  event : next.events[after.eventIndex]? = s.events[before.eventIndex]?
  activation : after.activationMinute = before.activationMinute
  since : after.minutesSinceStart = before.minutesSinceStart
  turns : after.turnsSinceStart = before.turnsSinceStart
  steps : after.stepsDue = before.stepsDue

/-- In the same phase no repeat is due that was not due before, and all that were are. -/
theorem SamePhase.dueRepeats {s next : Schedule} {minute : Nat} {before after : ScheduleStatus}
    (h : SamePhase s next minute before after) (hactor : next.actor = s.actor)
    (tracker : ScheduleTracker) : tracker.dueRepeats next after = tracker.dueRepeats s before := by
  simp only [ScheduleTracker.dueRepeats, h.event, h.activation, h.since, hactor]

/-- An insertion that does not take effect at once keeps the phase of a schedule exactly if the new
event lies within the cycle, or if the clock of the longer cycle stands where the active event and
the minutes since it began lead. In the same phase the same repeats are due. -/
theorem insertDynamic_samePhase_iff {s next : Schedule} {minute : Nat} {row : ScheduleRow}
    (hs : s.Built) (hne : s.events ≠ []) (hnext : s.insertDynamic minute row = .ok next)
    (turns : TurnLog) (stepMinutes : Nat) :
    ∃ new before after, ScheduleEvent.ofRow minute true row = .ok new ∧
      next.events[begunBy s.events minute]? = some new ∧
      s.resolve turns stepMinutes = some before ∧ next.resolve turns stepMinutes = some after ∧
      (after.eventIndex ≠ begunBy s.events minute →
        (SamePhase s next minute before after ↔ minute < s.cycleLength ∨
          turns.current % next.cycleLength = before.eventMinute + before.minutesSinceStart)) ∧
      (SamePhase s next minute before after → ∀ tracker : ScheduleTracker,
        tracker.dueRepeats next after = tracker.dueRepeats s before) := by
  obtain ⟨new, hnew, rfl⟩ := insertDynamic_eq_ok_iff.mp hnext
  have hminute : new.minute = minute := ScheduleEvent.ofRow_minute hnew
  subst hminute
  have horder := hs.inOrder
  have hne' : (s.push new).events ≠ [] := List.ne_nil_of_mem (mem_insertEvent.mpr (.inl rfl))
  obtain ⟨i, event, since, hactive, hbefore⟩ := resolve_isActive hne turns stepMinutes
  obtain ⟨i', event', since', hactive', hafter⟩ := resolve_isActive hne' turns stepMinutes
  refine ⟨new, _, _, hnew, getElem?_insertEvent_self horder, hbefore, hafter, ?_,
    fun h tracker => h.dueRepeats rfl tracker⟩
  intro hother
  have hiff : i' = movedTo s.events new.minute i ∧ since' = since ↔
      new.minute < s.cycleLength ∨
        turns.current % (s.push new).cycleLength = event.minute + since := by
    by_cases hin : new.minute < s.cycleLength
    · rw [cycleLength_push horder hne hin] at hactive'
      exact iff_of_true (isActive_push_within horder hne hin hactive hactive' hother) (.inl hin)
    · rw [or_iff_right hin]
      exact isActive_push_beyond horder (Nat.le_of_not_lt hin) hactive hactive' hother
  refine Iff.trans ⟨fun h => ⟨h.index, h.since⟩, ?_⟩ hiff
  rintro ⟨rfl, rfl⟩
  exact ⟨rfl, getElem?_insertEvent_movedTo horder new i, rfl, rfl, rfl, rfl⟩

/-- After midnight the volley of the day before goes on, though the new day has been added to the
cycle. -/
theorem volley_goes_on_in_longer_cycle :
    let volley : ScheduleRow := ⟨"shoot", none, none, none, none, some 10, some 3⟩
    let meeting : ScheduleRow := ⟨"meet", none, none, none, none, none, none⟩
    let s : Schedule := ⟨"baker", [⟨480, volley, none, [], false⟩]⟩
    let next : Schedule :=
      ⟨"baker", [⟨480, volley, none, [], false⟩, ⟨2000, meeting, none, [], true⟩]⟩
    let turns : TurnLog := .startingAt 1540
    s.Built ∧ s.events ≠ [] ∧ s.insertDynamic 2000 meeting = .ok next ∧
      ∃ before after, s.resolve turns 5 = some before ∧ next.resolve turns 5 = some after ∧
        SamePhase s next 2000 before after := by
  intro volley meeting s next turns
  have hrows : ofRows "baker" (.ofList [("08:00", volley)]) = .ok s :=
    toOption_eq_some_iff.mp (by decide +kernel)
  have hnext : s.insertDynamic 2000 meeting = .ok next :=
    toOption_eq_some_iff.mp (by decide +kernel)
  have hne : s.events ≠ [] := List.cons_ne_nil _ _
  obtain ⟨_, before, after, _, _, hbefore, hafter, hphase, _⟩ :=
    insertDynamic_samePhase_iff (.ofRows hrows) hne hnext turns 5
  refine ⟨.ofRows hrows, hne, hnext, before, after, hbefore, hafter, ?_⟩
  have hbefore' : s.resolve turns 5 = some ⟨0, 480, 100, 1060, 480, 0, 212⟩ := by decide +kernel
  have hafter' : next.resolve turns 5 = some ⟨0, 480, 1540, 1060, 480, 0, 212⟩ := by
    decide +kernel
  cases hbefore.symm.trans hbefore'
  cases hafter.symm.trans hafter'
  exact (hphase (by decide +kernel)).mpr (.inr (by decide +kernel))

/-- On the second day the volley of the morning is a day older once that day has been added to the
cycle, and is due once more. -/
theorem volley_repeated_in_longer_cycle :
    let volley : ScheduleRow := ⟨"shoot", none, none, none, none, some 10, some 3⟩
    let meeting : ScheduleRow := ⟨"meet", none, none, none, none, none, none⟩
    let s : Schedule := ⟨"baker", [⟨480, volley, none, [], false⟩]⟩
    let next : Schedule :=
      ⟨"baker", [⟨480, volley, none, [], false⟩, ⟨1960, meeting, none, [], true⟩]⟩
    let turns : TurnLog := .startingAt 1945
    let before : ScheduleStatus := ⟨0, 480, 505, 25, 1920, 0, 5⟩
    let after : ScheduleStatus := ⟨0, 480, 1945, 1465, 480, 0, 293⟩
    let tracker := (ScheduleTracker.dueRepeats ∅ s before).2
    ofRows "baker" (.ofList [("08:00", volley)]) = .ok s ∧
      s.insertDynamic 1960 meeting = .ok next ∧
      s.resolve turns 5 = some before ∧ next.resolve turns 5 = some after ∧
      (tracker.dueRepeats s before).1 = 0 ∧ (tracker.dueRepeats next after).1 = 3 := by
  intro volley meeting s next turns before after tracker
  have hrows : ofRows "baker" (.ofList [("08:00", volley)]) = .ok s :=
    toOption_eq_some_iff.mp (by decide +kernel)
  have hnext : s.insertDynamic 1960 meeting = .ok next :=
    toOption_eq_some_iff.mp (by decide +kernel)
  exact ⟨hrows, hnext, by decide +kernel, by decide +kernel, by decide +kernel, by decide +kernel⟩

end Schedule

end StoryEngine
