import Mathlib.Tactic.Ring
import StoryEngine.Proofs.Number.Rounding
import StoryEngine.Time.Timer

/-! # The two readings of a timer

The share of its time that has passed is a rounded number, the time that is left an exact one. The
rounding carries the last milliseconds of a long timer over to the whole: the two readings name the
same end exactly for timers that are not too long.
-/

namespace StoryEngine

set_option autoImplicit false

open Binary (rounds_ofRatio rounds_div one_le_round_iff)

namespace Timer

/-- Seconds are rounded twice, each time by at most one part in `2 ^ 53`. -/
theorem seconds_bounds (millis : Nat) :
    (1 - 1 / 2 ^ 53) ^ 2 * (millis / 1000 : ℚ) ≤ (seconds millis).value ∧
      (seconds millis).value ≤ (1 + 1 / 2 ^ 53) ^ 2 * (millis / 1000 : ℚ) := by
  have hwhole := rounds_ofRatio .double (millis / 1000) Nat.one_pos
  have hrest := rounds_ofRatio .double (millis % 1000 * 1000000) (by decide : 0 < 1000000000)
  have hsplit : (millis / 1000 : ℚ) = ((millis / 1000 : ℕ) : ℚ) / (1 : ℕ) +
      ((millis % 1000 * 1000000 : ℕ) : ℚ) / (1000000000 : ℕ) := by
    have h : (millis : ℚ) = 1000 * (millis / 1000 : ℕ) + (millis % 1000 : ℕ) := by
      exact_mod_cast (Nat.div_add_mod millis 1000).symm
    rw [h]
    push_cast
    ring
  rw [hsplit]
  exact hwhole.add_bounds hrest

theorem seconds_pos {millis : Nat} (h : 0 < millis) : 0 < (seconds millis).value := by
  have hpos : (0 : ℚ) < millis := Nat.cast_pos.mpr h
  have hlow := (seconds_bounds millis).1
  norm_num at hlow
  linarith

variable {t : Timer} {now : Tick}

/-- The quotient of which the progress is the rounding. -/
def share (t : Timer) (now : Tick) : Binary :=
  .div .double (seconds (Tick.since now t.start)) (seconds t.millis)

/-- A timer counts as finished from half a place of the rounded share below one on. -/
theorem one_le_progress_iff (h : 0 < t.millis) :
    Binary.one.le (t.progress now) = true ↔ 1 - 1 / 2 ^ 25 ≤ (t.share now).value := by
  rw [progress, if_neg h.ne', one_le_round_iff, Binary.value_min, Binary.value_one, le_min_iff]
  have hplace : (1 : ℚ) / 2 / 2 ^ Binary.Precision.bits .single = 1 / 2 ^ 25 := by
    norm_num [Binary.Precision.bits]
  rw [hplace]
  exact and_iff_left (sub_le_self _ (by positivity))

theorem share_bounds (h : 0 < t.millis) :
    (1 - 1 / 2 ^ 53) * ((seconds (Tick.since now t.start)).value / (seconds t.millis).value) ≤
        (t.share now).value ∧
      (t.share now).value ≤
        (1 + 1 / 2 ^ 53) * ((seconds (Tick.since now t.start)).value / (seconds t.millis).value) :=
  (rounds_div .double _ (seconds_pos h)).bounds

/-- A share that is far enough above the limit is rounded to one. -/
theorem one_le_progress_of_le (h : 0 < t.millis)
    (hshare : (1 - 1 / 2 ^ 25) * (t.millis : ℚ) ≤ (1 - 6 / 2 ^ 53) * Tick.since now t.start) :
    Binary.one.le (t.progress now) = true := by
  rw [one_le_progress_iff h]
  refine le_trans ?_ (share_bounds h).1
  have hpos := seconds_pos h
  rw [mul_div_assoc', le_div_iff₀ hpos]
  have hpassed := (seconds_bounds (Tick.since now t.start)).1
  have hlength := (seconds_bounds t.millis).2
  norm_num at *
  linarith

/-- A share that is far enough below the limit is not rounded to one. -/
theorem not_one_le_progress_of_lt (h : 0 < t.millis)
    (hshare : (1 + 6 / 2 ^ 53) * (Tick.since now t.start : ℚ) < (1 - 1 / 2 ^ 25) * t.millis) :
    ¬Binary.one.le (t.progress now) = true := by
  rw [one_le_progress_iff h, not_le]
  refine lt_of_le_of_lt (share_bounds h).2 ?_
  have hpos := seconds_pos h
  rw [mul_div_assoc', div_lt_iff₀ hpos]
  have hpassed := (seconds_bounds (Tick.since now t.start)).2
  have hlength := (seconds_bounds t.millis).1
  norm_num at *
  linarith

theorem remaining_eq_zero_iff : t.remaining now = 0 ↔ t.millis ≤ Tick.since now t.start :=
  Nat.sub_eq_zero_iff_le

theorem remaining_eq_zero_iff_le (h : 0 < t.millis) :
    t.remaining now = 0 ↔ t.start + t.millis ≤ now := by
  have hsub (start now : Nat) : t.millis ≤ now - start ↔ start + t.millis ≤ now := by omega
  rw [remaining_eq_zero_iff]
  exact hsub t.start now

/-- A timer is finished at the latest when all of its time has passed. -/
theorem one_le_progress_of_remaining (h : 0 < t.millis) (hover : t.remaining now = 0) :
    Binary.one.le (t.progress now) = true := by
  have hle : (t.millis : ℚ) ≤ Tick.since now t.start :=
    Nat.cast_le.mpr (remaining_eq_zero_iff.mp hover)
  refine one_le_progress_of_le h ?_
  norm_num
  linarith

/-- The longest time of which the last millisecond is told from the whole. -/
def longestExact : Nat := 2 ^ 25

/-- Half a place below one lies between the last two milliseconds of the longest exact timer, and
the rounding of the seconds does not carry the share over it. -/
theorem not_one_le_progress_of_remaining (h : 0 < t.millis) (hshort : t.millis ≤ longestExact)
    (hleft : t.remaining now ≠ 0) : ¬Binary.one.le (t.progress now) = true := by
  rw [Ne, remaining_eq_zero_iff, not_le] at hleft
  by_cases hlast : t.millis = longestExact ∧ Tick.since now t.start = longestExact - 1
  · rw [progress, hlast.1, hlast.2]
    decide +kernel
  · refine not_one_le_progress_of_lt h ?_
    rcases Nat.lt_or_ge t.millis longestExact with hlt | hge
    · have hmillis : (t.millis : ℚ) + 1 ≤ 33554432 := by exact_mod_cast hlt
      have hpassed : (Tick.since now t.start : ℚ) + 1 ≤ t.millis := by exact_mod_cast hleft
      norm_num
      linarith
    · have hmillis : t.millis = longestExact := Nat.le_antisymm hshort hge
      have hpassed : (Tick.since now t.start : ℚ) + 2 ≤ 33554432 := by
        exact_mod_cast (by omega : Tick.since now t.start + 2 ≤ longestExact)
      norm_num [hmillis, longestExact]
      linarith

/-- A longer timer counts as finished a millisecond early. -/
theorem one_le_progress_before_end (hlong : longestExact < t.millis) :
    Binary.one.le (t.progress (t.start + t.millis - 1)) = true := by
  have hpos : 0 < t.millis := Nat.zero_lt_of_lt hlong
  have hsince : Tick.since (t.start + t.millis - 1) t.start = t.millis - 1 := by
    rw [Tick.since]
    omega
  refine one_le_progress_of_le hpos ?_
  have hmillis : (33554433 : ℚ) ≤ t.millis := by exact_mod_cast hlong
  rw [hsince, Nat.cast_pred hpos]
  norm_num
  linarith

/-- The two readings of a timer agree at all times exactly if it is not longer than `2 ^ 25`
milliseconds, that is a little more than nine hours. -/
theorem agree_iff (h : 0 < t.millis) :
    (∀ now, Binary.one.le (t.progress now) = true ↔ t.remaining now = 0) ↔
      t.millis ≤ longestExact := by
  constructor
  · intro hagree
    by_contra hlong
    have hover := (hagree _).mp (one_le_progress_before_end (Nat.lt_of_not_le hlong))
    rw [remaining_eq_zero_iff, Tick.since] at hover
    omega
  · intro hshort now
    refine ⟨fun hover => ?_, one_le_progress_of_remaining h⟩
    by_contra hleft
    exact not_one_le_progress_of_remaining h hshort hleft hover

end Timer
end StoryEngine
