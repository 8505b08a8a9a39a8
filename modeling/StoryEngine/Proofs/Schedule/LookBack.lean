import StoryEngine.Proofs.Schedule.Order

/-! # The event that triggered last

The active event of a schedule can be found by going back through the cycle minute by minute, from
the first of its minutes to the last one, until some event triggers. Of the events at that minute
the last one is active.
-/

namespace StoryEngine

set_option autoImplicit false

namespace Schedule

def minuteBefore (cycle minute : Nat) : Nat := if minute = 0 then cycle - 1 else minute - 1

/-- The minute of the cycle that a number of steps back lead to. -/
def stepsBack (cycle minute : Nat) : Nat → Nat
  | 0 => minute
  | steps + 1 => minuteBefore cycle (stepsBack cycle minute steps)

/-- Up to the first minute of the cycle, steps back are taken off the minute, and from there on off
the same minute of the next cycle. -/
theorem stepsBack_eq {cycle minute steps : Nat} (hminute : minute < cycle)
    (hsteps : steps < cycle) : stepsBack cycle minute steps =
      if steps ≤ minute then minute - steps else minute + cycle - steps := by
  induction steps with
  | zero => rw [stepsBack, if_pos (Nat.zero_le minute), Nat.sub_zero]
  | succ steps ih =>
    rw [stepsBack, ih (Nat.lt_of_succ_lt hsteps), minuteBefore]
    split <;> split <;> split <;> omega

/-- The event at an index triggered a number of steps back, none has triggered since, and none of
those at the same minute stands behind it. -/
structure TriggeredLast (s : Schedule) (minute i since : Nat) (event : ScheduleEvent) : Prop where
  getElem? : s.events[i]? = some event
  since_lt : since < s.cycleLength
  triggers : stepsBack s.cycleLength minute since = event.minute
  none_since : ∀ steps < since, ∀ e ∈ s.events, e.minute ≠ stepsBack s.cycleLength minute steps
  last : ∀ j later, s.events[j]? = some later → later.minute = event.minute → j ≤ i

section

variable {s : Schedule} {minute i since : Nat} {event : ScheduleEvent}

/-- An event that begins by the time that the active one has lasted stands in front of it. -/
theorem IsActive.index_le (hs : InOrder s.events) (h : IsActive s minute i event since) {j : Nat}
    {e : ScheduleEvent} (he : s.events[j]? = some e) (hle : e.minute ≤ event.minute + since) :
    j ≤ i := by
  have hbegun := (lt_begunBy_iff hs he).mpr hle
  rw [h.begunBy_eq hs] at hbegun
  exact Nat.le_of_lt_succ hbegun

theorem IsActive.minute_le (hs : InOrder s.events) (h : IsActive s minute i event since)
    {e : ScheduleEvent} (he : e ∈ s.events) (hle : e.minute ≤ event.minute + since) :
    e.minute ≤ event.minute := by
  obtain ⟨j, hj⟩ := List.mem_iff_getElem?.mp he
  have hfront := h.index_le hs hj hle
  have hself := (lt_begunBy_iff hs h.getElem?).mpr (Nat.le_refl event.minute)
  exact (lt_begunBy_iff hs hj).mp (Nat.lt_of_le_of_lt hfront hself)

/-- Where the active event began in the cycle before, none of this cycle has begun. -/
theorem IsActive.minute_lt (hs : InOrder s.events) (h : IsActive s minute i event since)
    (hahead : minute < event.minute) {e : ScheduleEvent} (he : e ∈ s.events) :
    minute < e.minute := by
  cases h with
  | begun hevent hi =>
    have hbegun := (lt_begunBy_iff hs hevent).mp (by omega : i < begunBy s.events minute)
    omega
  | wrapped hevent hi hnone =>
    obtain ⟨j, hj⟩ := List.mem_iff_getElem?.mp he
    refine Nat.lt_of_not_le fun hle => ?_
    have hbegun := (lt_begunBy_iff hs hj).mpr hle
    omega

theorem IsActive.triggeredLast (hs : InOrder s.events) (hminute : minute < s.cycleLength)
    (h : IsActive s minute i event since) : TriggeredLast s minute i since event := by
  have hadd := h.since_add hs
  have hsince : since < s.cycleLength := by omega
  refine ⟨h.getElem?, hsince, ?_, ?_, ?_⟩
  · rw [stepsBack_eq hminute hsince]
    split <;> omega
  · intro steps hsteps e he htriggers
    rw [stepsBack_eq hminute (Nat.lt_trans hsteps hsince)] at htriggers
    rcases hadd with hadd | ⟨hahead, -, hadd⟩
    · have hle := h.minute_le hs he (by split at htriggers <;> omega)
      split at htriggers <;> omega
    · -- From here back to the first minute nothing has begun, and beyond it the event comes first.
      have hlt := h.minute_lt hs hahead he
      rw [if_neg (by split at htriggers <;> omega)] at htriggers
      have hle := h.minute_le hs he (by omega)
      omega
  · intro j later hj hsame
    exact h.index_le hs hj (by omega)

theorem resolve_eq_none_iff {turns : TurnLog} {stepMinutes : Nat} :
    s.resolve turns stepMinutes = none ↔ s.events = [] := by
  constructor
  · intro hnone
    refine Decidable.byContradiction fun hne => ?_
    obtain ⟨_, _, _, _, hsome⟩ := resolve_isActive hne turns stepMinutes
    cases hnone.symm.trans hsome
  · intro hempty
    simp [resolve, activeAt?, hempty]

/-- The clock stood at the minute of the active event when this one began. -/
theorem IsActive.begunAt_mod (hs : InOrder s.events) {clock begunAt : Nat}
    (h : IsActive s (clock % s.cycleLength) i event since) (hbegunAt : begunAt + since = clock) :
    begunAt % s.cycleLength = event.minute := by
  have hin := minute_lt_cycleLength hs (List.mem_of_getElem? h.getElem?)
  have hclock := Nat.div_add_mod clock s.cycleLength
  rcases h.since_add hs with hadd | ⟨-, -, hadd⟩
  · have hturns : begunAt = s.cycleLength * (clock / s.cycleLength) + event.minute := by omega
    rw [hturns, Nat.mul_add_mod, Nat.mod_eq_of_lt hin]
  · have hturns : begunAt + s.cycleLength =
        s.cycleLength * (clock / s.cycleLength) + event.minute := by omega
    rw [← Nat.add_mod_right, hturns, Nat.mul_add_mod, Nat.mod_eq_of_lt hin]

end

/-- What a schedule finds active is the event that a search back through the cycle meets first. The
minutes since it began are a difference that is not cut off at zero, and if the clock has run since,
it stood at the minute of this event then. -/
theorem resolve_triggeredLast {s : Schedule} (hs : s.Built) (turns : TurnLog) (stepMinutes : Nat) :
    (s.resolve turns stepMinutes = none ↔ s.events = []) ∧
    ∀ status, s.resolve turns stepMinutes = some status → ∃ event,
      status.currentMinute = turns.current % s.cycleLength ∧
      status.eventMinute = event.minute ∧
      TriggeredLast s status.currentMinute status.eventIndex status.minutesSinceStart event ∧
      (status.minutesSinceStart + event.minute = status.currentMinute ∨
        status.currentMinute < event.minute ∧
          status.minutesSinceStart + event.minute = status.currentMinute + s.cycleLength) ∧
      (status.minutesSinceStart ≤ turns.current →
        status.activationMinute + status.minutesSinceStart = turns.current ∧
          status.activationMinute % s.cycleLength = event.minute) := by
  refine ⟨resolve_eq_none_iff, fun status hstatus => ?_⟩
  have hne : s.events ≠ [] := fun hempty => by
    cases hstatus.symm.trans (resolve_eq_none_iff.mpr hempty)
  obtain ⟨i, event, since, hactive, hresolve⟩ := resolve_isActive hne turns stepMinutes
  cases hstatus.symm.trans hresolve
  have hin := minute_lt_cycleLength hs.inOrder (List.mem_of_getElem? hactive.getElem?)
  have hminute := Nat.mod_lt turns.current (Nat.zero_lt_of_lt hin)
  have hadd := hactive.since_add hs.inOrder
  refine ⟨event, rfl, rfl, hactive.triggeredLast hs.inOrder hminute, ?_, fun hclock => ?_⟩
  · exact hadd.imp_right fun ⟨hahead, _, hadd⟩ => ⟨hahead, hadd⟩
  · have hbegunAt := Nat.sub_add_cancel hclock
    exact ⟨hbegunAt, hactive.begunAt_mod hs.inOrder hbegunAt⟩

/-- In the night before the inn opens, the feast of the second evening still goes on, though the inn
closed in the same minute. -/
theorem feast_triggered_after_closing :
    let row : String → ScheduleRow := fun action => ⟨action, none, none, none, none, none, none⟩
    let inn : Schedule :=
      ⟨"innkeeper", [⟨480, row "open", none, [], false⟩, ⟨2640, row "close", none, [], false⟩]⟩
    let s : Schedule := ⟨"innkeeper", inn.events ++ [⟨2640, row "feast", none, [], true⟩]⟩
    s.Built ∧ s.resolve (.startingAt 5900) 5 = some ⟨2, 2640, 140, 380, 5520, 0, 76⟩ ∧
      TriggeredLast s 140 2 380 ⟨2640, row "feast", none, [], true⟩ ∧
      5520 % s.cycleLength = 2640 := by
  intro row inn s
  have hrows : ofRows "innkeeper" (.ofList [("08:00", row "open"), ("1:20:00", row "close")]) =
      .ok inn :=
    toOption_eq_some_iff.mp (by decide +kernel)
  have hfeast : inn.insertDynamic 2640 (row "feast") = .ok s :=
    toOption_eq_some_iff.mp (by decide +kernel)
  have hs : s.Built := .insertDynamic (.ofRows hrows) hfeast
  have hresolve : s.resolve (.startingAt 5900) 5 = some ⟨2, 2640, 140, 380, 5520, 0, 76⟩ := by
    decide +kernel
  obtain ⟨event, -, -, hlast, -, hclock⟩ := (resolve_triggeredLast hs _ _).2 _ hresolve
  obtain ⟨-, hminute⟩ := hclock (by decide)
  cases hlast.getElem?
  exact ⟨hs, hresolve, hlast, hminute⟩

end Schedule

end StoryEngine
