import Mathlib.Algebra.GroupWithZero.Nat
import Mathlib.Data.List.Induction
import StoryEngine.Time.TurnLog

/-! # Turns and the clock

The log keeps the lengths of its turns but not when each of them began. Going back over the lengths
nevertheless counts the turns by when they began: what the latest turns take together is what the
clock has run since the first of them, and no turn began after a later one.
-/

namespace StoryEngine.TurnLog

set_option autoImplicit false

/-- The log after a sequence of turns. -/
def recordAll (log : TurnLog) (lengths : List Nat) : TurnLog := lengths.foldl record log

/-- What the clock showed whenever a turn of the sequence began. -/
def startClocks (log : TurnLog) : List Nat → List Nat
  | [] => []
  | minutes :: rest => log.current :: startClocks (log.record minutes) rest

variable {log : TurnLog} {lengths : List Nat}

theorem recordAll_snoc (log : TurnLog) (earlier : List Nat) (minutes : Nat) :
    log.recordAll (earlier ++ [minutes]) = (log.recordAll earlier).record minutes := by
  simp [recordAll, List.foldl_append]

theorem startClocks_snoc (log : TurnLog) (earlier : List Nat) (minutes : Nat) :
    log.startClocks (earlier ++ [minutes]) =
      log.startClocks earlier ++ [(log.recordAll earlier).current] := by
  induction earlier generalizing log with
  | nil => rfl
  | cons first rest ih =>
    rw [List.cons_append, startClocks, ih, startClocks]
    rfl

theorem durations_recordAll (log : TurnLog) (lengths : List Nat) :
    (log.recordAll lengths).durations = log.durations ++ lengths := by
  induction lengths using List.reverseRecOn with
  | nil => exact (List.append_nil _).symm
  | append_singleton earlier minutes ih =>
    rw [recordAll_snoc, record, ih, List.append_assoc]

/-- As long as the clock does not stop at its last minute, it shows all that was recorded. -/
theorem current_recordAll (hfits : log.current + lengths.sum ≤ 0xFFFFFFFFFFFFFFFF) :
    (log.recordAll lengths).current = log.current + lengths.sum := by
  induction lengths using List.reverseRecOn with
  | nil => rfl
  | append_singleton earlier minutes ih =>
    rw [List.sum_append, List.sum_singleton] at hfits ⊢
    have hearlier := ih (by omega)
    rw [recordAll_snoc, record, hearlier, Nat.add_assoc]
    exact Nat.min_eq_left hfits

theorem previous_recordAll (begin : Nat) (lengths : List Nat) :
    ((startingAt begin).recordAll lengths).previous =
      ((startingAt begin).recordAll lengths.dropLast).current := by
  cases lengths using List.reverseRecOn with
  | nil => rfl
  | append_singleton earlier minutes => rw [List.dropLast_concat, recordAll_snoc, record]

/-- No turn begins after the clock that its successors leave. -/
theorem le_of_mem_startClocks (hfits : log.current + lengths.sum ≤ 0xFFFFFFFFFFFFFFFF)
    {start : Nat} (hstart : start ∈ log.startClocks lengths) :
    start ≤ log.current + lengths.sum := by
  induction lengths using List.reverseRecOn with
  | nil => cases hstart
  | append_singleton earlier minutes ih =>
    rw [List.sum_append, List.sum_singleton] at hfits ⊢
    rw [startClocks_snoc, List.mem_append, List.mem_singleton] at hstart
    rcases hstart with hstart | rfl
    · have := ih (by omega) hstart
      omega
    · rw [current_recordAll (by omega)]
      omega

theorem countFitting_reverse (hfits : log.current + lengths.sum ≤ 0xFFFFFFFFFFFFFFFF)
    (room : Nat) : countFitting lengths.reverse room =
      (log.startClocks lengths).countP fun start =>
        decide (log.current + lengths.sum ≤ start + room) := by
  induction lengths using List.reverseRecOn generalizing room with
  | nil => rfl
  | append_singleton earlier minutes ih =>
    rw [List.sum_append, List.sum_singleton] at hfits ⊢
    have hearlier : log.current + earlier.sum ≤ 0xFFFFFFFFFFFFFFFF := by omega
    rw [List.reverse_append, List.reverse_singleton, List.singleton_append, countFitting,
      startClocks_snoc, List.countP_append, List.countP_singleton, current_recordAll hearlier]
    by_cases hroom : minutes ≤ room
    · -- The latest turn fits, and what it leaves of the room is what the earlier ones may take.
      have hshift : ∀ start, decide (log.current + (earlier.sum + minutes) ≤ start + room) =
          decide (log.current + earlier.sum ≤ start + (room - minutes)) := by
        intro start
        rw [decide_eq_decide]
        omega
      rw [if_pos hroom, ih hearlier, if_pos (decide_eq_true (by omega))]
      simp only [hshift]
    · -- The latest turn alone takes too long, and all others began no later than it did.
      have hnone : (log.startClocks earlier).countP
          (fun start => decide (log.current + (earlier.sum + minutes) ≤ start + room)) = 0 := by
        rw [List.countP_eq_zero]
        intro start hstart
        have := le_of_mem_startClocks hearlier hstart
        simp only [decide_eq_true_eq]
        omega
      rw [if_neg hroom, hnone, if_neg (by simp only [decide_eq_true_eq]; omega)]

/-- While the clock can show all that was recorded, the log counts a turn among the latest ones that
fit into some minutes exactly if the clock has run no longer than that since the turn began. The
clock shows the minute of the start and all turns, and the previous one all turns but the last. -/
theorem trailingWithin_eq_countP {begin : Nat} {lengths : List Nat}
    (hfits : begin + lengths.sum ≤ 0xFFFFFFFFFFFFFFFF) :
    let log := (startingAt begin).recordAll lengths
    (∀ minutes, log.trailingWithin minutes = ((startingAt begin).startClocks lengths).countP
      fun start => decide (log.current ≤ start + minutes)) ∧
    log.current = begin + lengths.sum ∧
    log.previous = ((startingAt begin).recordAll lengths.dropLast).current := by
  intro log
  have hstart : (startingAt begin).current + lengths.sum ≤ 0xFFFFFFFFFFFFFFFF := hfits
  have hcurrent : log.current = (startingAt begin).current + lengths.sum :=
    current_recordAll hstart
  refine ⟨fun minutes => ?_, hcurrent, previous_recordAll begin lengths⟩
  have hdurations : log.durations = lengths := durations_recordAll (startingAt begin) lengths
  rw [trailingWithin, hdurations, hcurrent]
  exact countFitting_reverse hstart minutes

/-- Of the turns after ten to midnight, those count that began at midnight or later, also the one
that took no time at all. -/
theorem turns_since_midnight :
    let log := (startingAt 1430).recordAll [10, 0, 15, 20]
    1430 + [10, 0, 15, 20].sum ≤ 0xFFFFFFFFFFFFFFFF ∧ log.current = 1475 ∧ log.previous = 1455 ∧
      (startingAt 1430).startClocks [10, 0, 15, 20] = [1430, 1440, 1440, 1455] ∧
      log.trailingWithin 35 = 3 ∧ log.trailingWithin 34 = 1 := by
  intro log
  have hfits : 1430 + [10, 0, 15, 20].sum ≤ 0xFFFFFFFFFFFFFFFF := by decide
  obtain ⟨hcount, hcurrent, hprevious⟩ := trailingWithin_eq_countP hfits
  exact ⟨hfits, hcurrent, hprevious, rfl, hcount 35, hcount 34⟩

end StoryEngine.TurnLog
