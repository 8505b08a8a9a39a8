import Mathlib.Algebra.GroupWithZero.Nat
import StoryEngine.Proofs.Schedule.Order
import StoryEngine.Schedule.Tracker

/-! # How often an action repeats

While one activation of an event lasts, the minutes since it began grow with the clock, also over
midnight. The tracker fires what those minutes owe and nothing twice, so that what has been fired
depends on the last reading of the schedule alone and not on how often it was read.
-/

namespace StoryEngine

set_option autoImplicit false

namespace Schedule

/-- A schedule as it was found at some moment. -/
structure Reading (s : Schedule) where
  turns : TurnLog
  stepMinutes : Nat
  status : ScheduleStatus
  resolved : s.resolve turns stepMinutes = some status

section

variable {s : Schedule} {i since since' : Nat} {event : ScheduleEvent}

theorem cycles_of_clock (clock cycle : Nat) :
    ∃ full, clock = full + clock % cycle ∧ (full = 0 ∨ cycle ≤ full) := by
  refine ⟨cycle * (clock / cycle), (Nat.div_add_mod clock cycle).symm, ?_⟩
  rcases Nat.eq_zero_or_pos (clock / cycle) with hnone | hsome
  · exact .inl (by rw [hnone, Nat.mul_zero])
  · exact .inr (Nat.le_mul_of_pos_right cycle hsome)

/-- The moment at which an event became active tells its activations apart, although all that began
before the clock did are given the moment zero. -/
theorem IsActive.since_mono (hs : InOrder s.events) {clock later : Nat}
    (h : IsActive s (clock % s.cycleLength) i event since)
    (h' : IsActive s (later % s.cycleLength) i event since')
    (hsame : clock - since = later - since') (hlater : clock ≤ later) : since ≤ since' := by
  obtain ⟨full, hclock, hfull⟩ := cycles_of_clock clock s.cycleLength
  obtain ⟨full', hlater', hfull'⟩ := cycles_of_clock later s.cycleLength
  have hsince := h.since_add hs
  have hsince' := h'.since_add hs
  omega

end

theorem Reading.isActive {s : Schedule} (r : Reading s) {event : ScheduleEvent}
    (hevent : s.events[r.status.eventIndex]? = some event) :
    IsActive s (r.turns.current % s.cycleLength) r.status.eventIndex event
        r.status.minutesSinceStart ∧
      r.status.activationMinute = r.turns.current - r.status.minutesSinceStart := by
  have hne : s.events ≠ [] := List.ne_nil_of_mem (List.mem_of_getElem? hevent)
  obtain ⟨i, active, since, hactive, hresolve⟩ := resolve_isActive hne r.turns r.stepMinutes
  have hstatus := Option.some.inj (r.resolved.symm.trans hresolve)
  rw [hstatus] at hevent ⊢
  cases hactive.getElem?.symm.trans hevent
  exact ⟨hactive, rfl⟩

/-- The readings that fall into one activation of an event. -/
def Reading.InActivation {s : Schedule} (i minute : Nat) (r : Reading s) : Prop :=
  r.status.eventIndex = i ∧ r.status.activationMinute = minute

theorem Reading.since_mono {s : Schedule} (hs : InOrder s.events) {i minute : Nat}
    {event : ScheduleEvent} (hevent : s.events[i]? = some event) {r r' : Reading s}
    (h : r.InActivation i minute) (h' : r'.InActivation i minute)
    (hclock : r.turns.current ≤ r'.turns.current) :
    r.status.minutesSinceStart ≤ r'.status.minutesSinceStart := by
  obtain ⟨hi, hminute⟩ := h
  obtain ⟨hi', hminute'⟩ := h'
  obtain ⟨hactive, hbegan⟩ := r.isActive (hi ▸ hevent)
  obtain ⟨hactive', hbegan'⟩ := r'.isActive (hi' ▸ hevent)
  rw [hi] at hactive
  rw [hi'] at hactive'
  exact hactive.since_mono hs hactive' (by omega) hclock

end Schedule

namespace ScheduleTracker

open Schedule (Reading)

/-- How often an action has to have fired some minutes after it began: once for each full interval,
and at most as often as it may. -/
def owed (row : ScheduleRow) (sinceStart : Nat) : Nat :=
  match row.repeatInterval, row.repeatCount with
  | none, _ => 0
  | some interval, none => sinceStart / interval
  | some interval, some most => min most (sinceStart / interval)

theorem owed_of_interval {row : ScheduleRow} {interval : Nat}
    (h : row.repeatInterval = some interval) (sinceStart : Nat) :
    owed row sinceStart = match row.repeatCount with
      | none => sinceStart / interval
      | some most => min most (sinceStart / interval) := by
  rw [owed, h]
  cases row.repeatCount <;> rfl

theorem isDue_iff (row : ScheduleRow) (sinceStart fired : Nat) :
    isDue row sinceStart fired = true ↔ fired < owed row sinceStart := by
  unfold isDue owed
  cases row.repeatInterval with
  | none => exact iff_of_false nofun (Nat.not_lt_zero fired)
  | some interval =>
    rcases Nat.eq_zero_or_pos interval with rfl | hpos
    · cases row.repeatCount <;> simp
    · have hnext : interval * (fired + 1) ≤ sinceStart ↔ fired < sinceStart / interval := by
        rw [Nat.mul_comm, ← Nat.le_div_iff_mul_le hpos, Nat.succ_le_iff]
      cases row.repeatCount with
      | none => simp [hpos, hnext]
      | some most =>
        rw [Nat.lt_min]
        simp [hpos, hnext]

theorem catchUp_eq_max (row : ScheduleRow) (sinceStart fired : Nat) :
    catchUp row sinceStart fired = max fired (owed row sinceStart) := by
  fun_induction catchUp row sinceStart fired with
  | case1 fired hdue ih =>
    have := (isDue_iff row sinceStart fired).mp hdue
    omega
  | case2 fired hnot =>
    rw [isDue_iff] at hnot
    omega

theorem owed_mono (row : ScheduleRow) {since since' : Nat} (h : since ≤ since') :
    owed row since ≤ owed row since' := by
  unfold owed
  split
  · exact Nat.le_refl 0
  · exact Nat.div_le_div_right h
  · next interval most _ _ =>
    have := Nat.div_le_div_right (c := interval) h
    omega

section

variable {tracker : ScheduleTracker} {s : Schedule} {event : ScheduleEvent}

theorem countFor_of_get? {actor : String} {activation : Activation} {n : Nat}
    (h : tracker.get? actor = some ⟨activation, n⟩) : tracker.countFor actor activation = n := by
  simp only [countFor, h, if_true]

theorem fired_of_get? {actor : String} {activation : Activation} {n : Nat}
    (h : tracker.get? actor = some ⟨activation, n⟩) : tracker.fired actor = n := by
  simp only [fired, h, Option.map_some, Option.getD_some]

theorem countFor_eq_zero {actor : String} {activation : Activation}
    (h : ∀ count, tracker.get? actor = some count → count.activation ≠ activation) :
    tracker.countFor actor activation = 0 := by
  unfold countFor
  split
  · next count hcount => rw [if_neg (h count hcount)]
  · rfl

/-- What a call answers for an event that is there, and what the tracker knows of it then. -/
theorem dueRepeats_of_event {status : ScheduleStatus}
    (hevent : s.events[status.eventIndex]? = some event) (tracker : ScheduleTracker) :
    let activation : Activation := ⟨status.activationMinute, event.dynamic⟩
    let before := tracker.countFor s.actor activation
    let now := max before (owed event.row status.minutesSinceStart)
    (tracker.dueRepeats s status).1 = now - before ∧
      (tracker.dueRepeats s status).2.get? s.actor = some ⟨activation, now⟩ := by
  intro activation before now
  simp only [dueRepeats, hevent, catchUp_eq_max, StringMap.get?_insert, if_true]
  exact ⟨rfl, rfl⟩

/-- A tracker that is behind fires what is missing. -/
theorem dueRepeats_of_behind {status : ScheduleStatus} {activation : Activation}
    (hevent : s.events[status.eventIndex]? = some event)
    (hactivation : activation = ⟨status.activationMinute, event.dynamic⟩)
    (hbehind : tracker.countFor s.actor activation ≤ owed event.row status.minutesSinceStart) :
    tracker.countFor s.actor activation + (tracker.dueRepeats s status).1 =
        owed event.row status.minutesSinceStart ∧
      (tracker.dueRepeats s status).2.get? s.actor =
        some ⟨activation, owed event.row status.minutesSinceStart⟩ := by
  subst hactivation
  obtain ⟨hdue, hnow⟩ := dueRepeats_of_event hevent tracker
  rw [Nat.max_eq_right hbehind] at hdue hnow
  exact ⟨by omega, hnow⟩

end

/-- The counts that come back when the tracker is asked about one status after the other. -/
def pollAll (tracker : ScheduleTracker) (s : Schedule) :
    List ScheduleStatus → List Nat × ScheduleTracker
  | [] => ([], tracker)
  | status :: rest =>
    let (due, next) := tracker.dueRepeats s status
    let (dues, final) := pollAll next s rest
    (due :: dues, final)

theorem pollAll_of_behind {s : Schedule} {i minute : Nat} {event : ScheduleEvent}
    (hevent : s.events[i]? = some event) {statuses : List ScheduleStatus}
    (hsame : ∀ status ∈ statuses, status.eventIndex = i ∧ status.activationMinute = minute)
    (hgrows : statuses.Pairwise fun a b => a.minutesSinceStart ≤ b.minutesSinceStart)
    {last : ScheduleStatus} (hlast : statuses.getLast? = some last) (tracker : ScheduleTracker)
    (hbehind : ∀ status ∈ statuses, tracker.countFor s.actor ⟨minute, event.dynamic⟩ ≤
      owed event.row status.minutesSinceStart) :
    tracker.countFor s.actor ⟨minute, event.dynamic⟩ + (tracker.pollAll s statuses).1.sum =
        owed event.row last.minutesSinceStart ∧
      (tracker.pollAll s statuses).2.fired s.actor = owed event.row last.minutesSinceStart := by
  induction statuses generalizing tracker with
  | nil => cases hlast
  | cons status rest ih =>
    obtain ⟨hfirst, hgrows⟩ := List.pairwise_cons.mp hgrows
    obtain ⟨hi, hminute⟩ := hsame status List.mem_cons_self
    obtain ⟨hdue, hnext⟩ := dueRepeats_of_behind (hi.symm ▸ hevent) (hminute ▸ rfl)
      (hbehind status List.mem_cons_self)
    rw [pollAll]
    simp only [List.sum_cons]
    cases rest with
    | nil =>
      cases hlast
      exact ⟨hdue, fired_of_get? hnext⟩
    | cons second rest =>
      have hcaught := countFor_of_get? hnext
      -- From here on the tracker has fired what this status owes, and the later ones owe no less.
      obtain ⟨hsum, hfired⟩ := ih (fun later hlater => hsame later (List.mem_cons_of_mem _ hlater))
        hgrows hlast (tracker.dueRepeats s status).2 fun later hlater => by
          rw [hcaught]
          exact owed_mono event.row (hfirst later hlater)
      rw [hcaught] at hsum
      exact ⟨by omega, hfired⟩

/-- During one activation of an event whose action repeats, all that the tracker fires together is
what the last reading owes, however often the schedule was read before. -/
theorem sum_pollAll_eq_owed {s : Schedule} (hs : s.Built) {i minute interval : Nat}
    {event : ScheduleEvent} (hevent : s.events[i]? = some event)
    (hinterval : event.row.repeatInterval = some interval)
    {readings : List (Reading s)} (hsame : ∀ r ∈ readings, r.InActivation i minute)
    (hclock : readings.Pairwise fun r r' => r.turns.current ≤ r'.turns.current)
    {last : Reading s} (hlast : readings.getLast? = some last) {tracker : ScheduleTracker}
    (hnew : ∀ count, tracker.get? s.actor = some count →
      count.activation ≠ ⟨minute, event.dynamic⟩) :
    (tracker.pollAll s (readings.map (·.status))).1.sum =
        (match event.row.repeatCount with
          | none => last.status.minutesSinceStart / interval
          | some most => min most (last.status.minutesSinceStart / interval)) ∧
      (tracker.pollAll s (readings.map (·.status))).2.fired s.actor =
        (tracker.pollAll s (readings.map (·.status))).1.sum := by
  have hcount := countFor_eq_zero hnew
  have hgrows : (readings.map (·.status)).Pairwise
      fun a b => a.minutesSinceStart ≤ b.minutesSinceStart := by
    rw [List.pairwise_map]
    exact hclock.imp_of_mem fun hr hr' h =>
      Reading.since_mono hs.inOrder hevent (hsame _ hr) (hsame _ hr') h
  obtain ⟨hsum, hfired⟩ := pollAll_of_behind hevent (List.forall_mem_map.mpr hsame) hgrows
    (by rw [List.getLast?_map, hlast, Option.map_some]) tracker fun _ _ => by
      rw [hcount]
      exact Nat.zero_le _
  rw [hcount, Nat.zero_add] at hsum
  exact ⟨hsum.trans (owed_of_interval hinterval _), hfired.trans hsum.symm⟩

/-- After midnight the volley of the morning before comes to its end, and what was fired in the
activation before that one no longer counts. -/
theorem volley_ends_after_midnight :
    let volley : ScheduleRow := ⟨"shoot", none, none, none, none, some 10, some 90⟩
    let s : Schedule := ⟨"baker", [⟨480, volley, none, [], false⟩]⟩
    let statuses : List ScheduleStatus :=
      [⟨0, 480, 505, 25, 480, 0, 5⟩, ⟨0, 480, 10, 970, 480, 0, 97⟩]
    let tracker : ScheduleTracker := StringMap.insert ∅ "baker" ⟨⟨0, false⟩, 7⟩
    s.Built ∧ s.resolve (.startingAt 505) 5 = statuses[0]? ∧
      s.resolve (.startingAt 1450) 10 = statuses[1]? ∧
      (tracker.pollAll s statuses).1.sum = 90 ∧
      (tracker.pollAll s statuses).2.fired "baker" = 90 := by
  intro volley s statuses tracker
  have hs : s.Built :=
    .ofRows (toOption_eq_some_iff.mp (by decide +kernel :
      (Schedule.ofRows "baker" (.ofList [("08:00", volley)])).toOption = some s))
  let morning : Reading s := ⟨.startingAt 505, 5, ⟨0, 480, 505, 25, 480, 0, 5⟩, by decide +kernel⟩
  let night : Reading s := ⟨.startingAt 1450, 10, ⟨0, 480, 10, 970, 480, 0, 97⟩, by decide +kernel⟩
  have hsame : ∀ r ∈ [morning, night], r.InActivation 0 480 := by
    intro r hr
    rcases List.mem_cons.mp hr with rfl | hr
    · exact ⟨rfl, rfl⟩
    · cases List.mem_singleton.mp hr
      exact ⟨rfl, rfl⟩
  have hclock : [morning, night].Pairwise fun r r' => r.turns.current ≤ r'.turns.current :=
    List.pairwise_pair.mpr (by decide)
  have hnew : ∀ count, tracker.get? s.actor = some count → count.activation ≠ ⟨480, false⟩ := by
    intro count hcount
    cases hcount
    decide
  have hlast : [morning, night].getLast? = some night := rfl
  obtain ⟨hsum, hfired⟩ := sum_pollAll_eq_owed hs (i := 0) rfl rfl hsame hclock hlast hnew
  have hall : (tracker.pollAll s statuses).1.sum = 90 := hsum.trans (by decide)
  exact ⟨hs, morning.resolved, night.resolved, hall, hfired.trans hall⟩

end ScheduleTracker

end StoryEngine
