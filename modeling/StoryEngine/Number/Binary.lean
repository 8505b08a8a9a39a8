/-! # Binary fractions of limited precision

Nonnegative numbers `mantissa * 2 ^ exponent`. Each operation gives the exact result rounded to a
number of significant bits, to the nearest such number, and of two nearest ones to the one with an
even mantissa. Exponents are unbounded.
-/

namespace StoryEngine

set_option autoImplicit false

structure Binary where
  mantissa : Nat
  exponent : Int
deriving DecidableEq, Inhabited

namespace Binary

def zero : Binary := ⟨0, 0⟩
def one : Binary := ⟨1, 0⟩

inductive Precision where
  | single
  | double
deriving DecidableEq

/-- Significant bits. -/
def Precision.bits : Precision → Nat
  | single => 24
  | double => 53

/-- What is added to an exponent before it is stored. -/
def Precision.bias : Precision → Nat
  | single => 127
  | double => 1023

/-- Numerator and denominator of `n * 2 ^ e`. -/
def asRatio (n : Nat) (e : Int) : Nat × Nat :=
  if 0 ≤ e then (n * Nat.pow 2 e.toNat, 1) else (n, Nat.pow 2 (-e).toNat)

/-- The whole number nearest to a ratio; a half goes to the even neighbour. -/
def nearest (num den : Nat) : Nat :=
  let low := num / den
  let twice := 2 * (num % den)
  if twice < den then low
  else if den < twice then low + 1
  else low + low % 2

/-- The ratio of two whole numbers, rounded. -/
def ofRatio (precision : Precision) (num den : Nat) : Binary :=
  if num = 0 then zero
  else
    let bits := precision.bits
    let guess : Int := Int.ofNat (num.log2) - Int.ofNat (den.log2) - Int.ofNat bits
    let scale (e : Int) : Nat × Nat :=
      let power := asRatio 1 (-e)
      (num * power.1, den * power.2)
    let first := scale guess
    let e := if Nat.pow 2 bits * first.2 ≤ first.1 then guess + 1 else guess
    let scaled := scale e
    ⟨nearest scaled.1 scaled.2, e⟩

def ofNat (precision : Precision) (n : Nat) : Binary := ofRatio precision n 1

def ratio (a : Binary) : Nat × Nat := asRatio a.mantissa a.exponent

def round (precision : Precision) (a : Binary) : Binary := ofRatio precision a.ratio.1 a.ratio.2

def add (precision : Precision) (a b : Binary) : Binary :=
  ofRatio precision (a.ratio.1 * b.ratio.2 + b.ratio.1 * a.ratio.2) (a.ratio.2 * b.ratio.2)

def div (precision : Precision) (a b : Binary) : Binary :=
  ofRatio precision (a.ratio.1 * b.ratio.2) (a.ratio.2 * b.ratio.1)

def le (a b : Binary) : Bool := a.ratio.1 * b.ratio.2 ≤ b.ratio.1 * a.ratio.2

def min (a b : Binary) : Binary := if a.le b then a else b

/-- The interchange word of a number whose exponent the word can hold. -/
def encode (precision : Precision) (a : Binary) : Nat :=
  if a.mantissa = 0 then 0
  else
    let places := precision.bits - 1
    let lift := places - a.mantissa.log2
    let drop := a.mantissa.log2 - places
    let mantissa := a.mantissa * Nat.pow 2 lift / Nat.pow 2 drop
    let exponent := a.exponent - Int.ofNat lift + Int.ofNat (drop + places + precision.bias)
    exponent.toNat * Nat.pow 2 places + (mantissa - Nat.pow 2 places)

end Binary

end StoryEngine
