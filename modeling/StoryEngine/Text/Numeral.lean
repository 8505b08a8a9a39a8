/-! # Decimal numerals

A numeral is an optional sign and at least one of the digits 0 to 9. A minus sign is accepted only
where negative values exist, even in front of zero. Leading zeros do no harm; values outside the
range asked for are refused.
-/

namespace StoryEngine.Text.Numeral

set_option autoImplicit false

def digits? (s : List Char) : Option Nat :=
  if s ≠ [] ∧ s.all Char.isDigit then some (Nat.ofDigitChars 10 s 0) else none

/-- A count below `bound`. -/
def natBelow? (bound : Nat) (s : String) : Option Nat :=
  let digits := match s.toList with
    | '+' :: rest => rest
    | all => all
  (digits? digits).filter (· < bound)

/-- A whole number from `-bound` to `bound - 1`. -/
def intWithin? (bound : Nat) (s : String) : Option Int :=
  let value : Option Int := match s.toList with
    | '+' :: rest => (digits? rest).map Int.ofNat
    | '-' :: rest => (digits? rest).map fun n => -Int.ofNat n
    | all => (digits? all).map Int.ofNat
  value.filter fun n => -Int.ofNat bound ≤ n ∧ n < Int.ofNat bound

/-- Bounds of the number sizes that content can name. -/
def count32 : Nat := 0x100000000
def count64 : Nat := 0x10000000000000000
def coordinate : Nat := 0x80000000
def signed64 : Nat := 0x8000000000000000

theorem digits?_eq_some_iff (s : List Char) (n : Nat) :
    digits? s = some n ↔ s ≠ [] ∧ (∀ c ∈ s, c.isDigit) ∧ Nat.ofDigitChars 10 s 0 = n := by
  simp [digits?, and_assoc]

theorem lt_of_natBelow? (bound n : Nat) (s : String) (h : natBelow? bound s = some n) :
    n < bound := by
  simp only [natBelow?, Option.filter_eq_some_iff, decide_eq_true_eq] at h
  exact h.2

end StoryEngine.Text.Numeral
