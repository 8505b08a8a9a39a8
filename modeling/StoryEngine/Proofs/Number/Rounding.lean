import Mathlib.Algebra.Order.Field.Power
import Mathlib.Data.Rat.Cast.Order
import Mathlib.Tactic.Linarith
import Mathlib.Tactic.Positivity
import StoryEngine.Number.Binary

/-! # Rounded numbers beside the exact ones

What a binary fraction means is a rational number. A rounded result is off from the exact one by a
share of it that its precision tells, and it reaches one exactly if the exact result lacks half a
unit of the last place below one, or less.
-/

namespace StoryEngine

set_option autoImplicit false

namespace Binary

def value (a : Binary) : ℚ := a.mantissa * 2 ^ a.exponent

theorem asRatio_spec (n : Nat) (e : Int) :
    0 < (asRatio n e).2 ∧ ((asRatio n e).1 : ℚ) / (asRatio n e).2 = n * 2 ^ e := by
  unfold asRatio
  split
  · next he =>
    lift e to ℕ using he
    simp
  · next he =>
    obtain ⟨k, rfl⟩ := Int.exists_eq_neg_ofNat (by omega : e ≤ 0)
    simp [div_eq_mul_inv]

theorem ratio_snd_pos (a : Binary) : 0 < a.ratio.2 := (asRatio_spec _ _).1

theorem ratio_div (a : Binary) : (a.ratio.1 : ℚ) / a.ratio.2 = a.value := (asRatio_spec _ _).2

theorem value_one : one.value = 1 := by simp [value, one]

theorem le_iff (a b : Binary) : a.le b = true ↔ a.value ≤ b.value := by
  have ha : (0 : ℚ) < a.ratio.2 := Nat.cast_pos.mpr a.ratio_snd_pos
  have hb : (0 : ℚ) < b.ratio.2 := Nat.cast_pos.mpr b.ratio_snd_pos
  rw [le, decide_eq_true_iff, ← ratio_div, ← ratio_div, div_le_div_iff₀ ha hb]
  exact_mod_cast Iff.rfl

theorem value_min (a b : Binary) : (min a b).value = Min.min a.value b.value := by
  unfold min
  split
  · next h => rw [min_eq_left ((le_iff a b).mp h)]
  · next h => rw [min_eq_right (le_of_not_ge fun hle => h ((le_iff a b).mpr hle))]

section Nearest

variable (num : Nat) {den : Nat}

theorem nearest_bounds (hden : 0 < den) :
    2 * num ≤ 2 * (nearest num den * den) + den ∧
      2 * (nearest num den * den) ≤ 2 * num + den := by
  have hsplit := Nat.div_add_mod' num den
  have hlt := Nat.mod_lt num hden
  unfold nearest
  simp only
  generalize num / den = low at *
  generalize num % den = rest at *
  split
  · omega
  · split
    · rw [Nat.add_mul]
      omega
    · rcases Nat.mod_two_eq_zero_or_one low with h | h
      · rw [h, Nat.add_zero]
        omega
      · rw [h, Nat.add_mul]
        omega

theorem abs_nearest_sub_le (hden : 0 < den) : |(nearest num den : ℚ) - num / den| ≤ 1 / 2 := by
  have hpos : (0 : ℚ) < den := Nat.cast_pos.mpr hden
  have hratio : (num / den : ℚ) * den = num := div_mul_cancel₀ _ hpos.ne'
  obtain ⟨hup, hdown⟩ := nearest_bounds num hden
  have hup : 2 * (num : ℚ) ≤ 2 * (nearest num den * den) + den := by exact_mod_cast hup
  have hdown : 2 * (nearest num den * den : ℚ) ≤ 2 * num + den := by exact_mod_cast hdown
  rw [abs_sub_le_iff]
  constructor
  · refine le_of_mul_le_mul_right ?_ hpos
    rw [sub_mul, hratio]
    linarith
  · refine le_of_mul_le_mul_right ?_ hpos
    rw [sub_mul, hratio]
    linarith

/-- A half goes up to an even number. -/
theorem le_nearest_iff {k : Nat} (hden : 0 < den) (hk : k % 2 = 0) :
    k ≤ nearest num den ↔ 2 * (k * den) ≤ 2 * num + den := by
  have hsplit := Nat.div_add_mod' num den
  have hlt := Nat.mod_lt num hden
  unfold nearest
  simp only
  generalize num / den = low at *
  generalize num % den = rest at *
  have hle (m : Nat) (h : k ≤ m) : k * den ≤ m * den := Nat.mul_le_mul_right den h
  have hge (m : Nat) (h : ¬k ≤ m) : m * den + den ≤ k * den := by
    rw [← Nat.succ_mul]
    exact Nat.mul_le_mul_right den (Nat.lt_of_not_le h)
  by_cases hlow : k ≤ low
  · have := hle low hlow
    split
    · exact iff_of_true hlow (by omega)
    · split <;> exact iff_of_true (by omega) (by omega)
  · have h1 := hge low hlow
    by_cases hnext : k ≤ low + 1
    · have h2 := hle _ hnext
      rw [Nat.add_mul, Nat.one_mul] at h2
      split
      · exact iff_of_false hlow (by omega)
      · split
        · exact iff_of_true hnext (by omega)
        · exact iff_of_true (by omega) (by omega)
    · have h2 := hge _ hnext
      rw [Nat.add_mul, Nat.one_mul] at h2
      split
      · exact iff_of_false hlow (by omega)
      · split <;> exact iff_of_false (by omega) (by omega)

theorem two_pow_le_nearest_iff {k : Nat} (hden : 0 < den) (hk : 0 < k) :
    (2 : ℚ) ^ k ≤ nearest num den ↔ 2 ^ k - 1 / 2 ≤ (num / den : ℚ) := by
  have hpos : (0 : ℚ) < den := Nat.cast_pos.mpr hden
  have heven := le_nearest_iff num hden (Nat.two_pow_mod_two_eq_zero.mpr hk)
  calc (2 : ℚ) ^ k ≤ nearest num den ↔ 2 * ((2 : ℚ) ^ k * den) ≤ 2 * num + den := by
        exact_mod_cast heven
    _ ↔ (2 ^ k - 1 / 2) * den ≤ (num : ℚ) := by constructor <;> intro h <;> linarith
    _ ↔ 2 ^ k - 1 / 2 ≤ (num / den : ℚ) := (le_div_iff₀ hpos).symm

end Nearest

variable {p : Precision} {num den : Nat}

theorem two_pow_log2_le (hnum : 0 < num) :
    (2 : ℚ) ^ (num.log2 : ℤ) ≤ num ∧ (num : ℚ) < 2 ^ (num.log2 + 1 : ℤ) := by
  refine ⟨?_, ?_⟩
  · rw [zpow_natCast]
    exact_mod_cast Nat.log2_self_le (Nat.ne_of_gt hnum)
  · exact_mod_cast Nat.lt_log2_self

/-- A ratio lies within a factor of two of what the lengths of its terms say. -/
theorem ratio_bounds (hnum : 0 < num) (hden : 0 < den) :
    (2 : ℚ) ^ (num.log2 - den.log2 - 1 : ℤ) ≤ num / den ∧
      (num / den : ℚ) < 2 ^ (num.log2 - den.log2 + 1 : ℤ) := by
  have hpos : (0 : ℚ) < den := Nat.cast_pos.mpr hden
  obtain ⟨hnl, hnu⟩ := two_pow_log2_le hnum
  obtain ⟨hdl, hdu⟩ := two_pow_log2_le hden
  constructor
  · rw [le_div_iff₀ hpos]
    calc (2 : ℚ) ^ (num.log2 - den.log2 - 1 : ℤ) * den
        ≤ 2 ^ (num.log2 - den.log2 - 1 : ℤ) * 2 ^ (den.log2 + 1 : ℤ) := by gcongr
      _ = 2 ^ (num.log2 : ℤ) := by rw [← zpow_add₀ two_ne_zero]; congr 1; omega
      _ ≤ num := hnl
  · rw [div_lt_iff₀ hpos]
    calc (num : ℚ) < 2 ^ (num.log2 + 1 : ℤ) := hnu
      _ = 2 ^ (num.log2 - den.log2 + 1 : ℤ) * 2 ^ (den.log2 : ℤ) := by
        rw [← zpow_add₀ two_ne_zero]; congr 1; omega
      _ ≤ 2 ^ (num.log2 - den.log2 + 1 : ℤ) * den := by gcongr

/-- The terms of a ratio that is moved by some binary places. -/
def scaled (num den : Nat) (e : ℤ) : Nat × Nat :=
  (num * (asRatio 1 (-e)).1, den * (asRatio 1 (-e)).2)

theorem scaled_spec (num : Nat) (hden : 0 < den) (e : ℤ) :
    0 < (scaled num den e).2 ∧
      ((scaled num den e).1 : ℚ) / (scaled num den e).2 = num / den * 2 ^ (-e) := by
  obtain ⟨hpos, hratio⟩ := asRatio_spec 1 (-e)
  refine ⟨Nat.mul_pos hden hpos, ?_⟩
  rw [scaled, Nat.cast_mul, Nat.cast_mul, mul_div_mul_comm, hratio, Nat.cast_one, one_mul]

/-- The last place of a ratio as the lengths of its terms say. -/
def guess (p : Precision) (num den : Nat) : ℤ := num.log2 - den.log2 - p.bits

/-- The guess leaves as many bits as there is room for, or one more. -/
theorem guess_bounds (p : Precision) (hnum : 0 < num) (hden : 0 < den) :
    (2 : ℚ) ^ p.bits / 2 ≤ num / den * 2 ^ (-guess p num den) ∧
      num / den * (2 : ℚ) ^ (-guess p num den) < 2 ^ p.bits * 2 := by
  obtain ⟨hlow, hhigh⟩ := ratio_bounds hnum hden
  have hpow : (0 : ℚ) < 2 ^ (-guess p num den) := zpow_pos two_pos _
  have hbits : (2 : ℚ) ^ p.bits = 2 ^ (p.bits : ℤ) := (zpow_natCast _ _).symm
  have hless : (num.log2 - den.log2 - 1 : ℤ) + -guess p num den = p.bits - 1 := by
    rw [guess]
    omega
  have hmore : (num.log2 - den.log2 + 1 : ℤ) + -guess p num den = p.bits + 1 := by
    rw [guess]
    omega
  constructor
  · calc (2 : ℚ) ^ p.bits / 2
        = 2 ^ (num.log2 - den.log2 - 1 : ℤ) * 2 ^ (-guess p num den) := by
          rw [← zpow_add₀ two_ne_zero, hless, zpow_sub_one₀ two_ne_zero, hbits, div_eq_mul_inv]
      _ ≤ num / den * 2 ^ (-guess p num den) := mul_le_mul_of_nonneg_right hlow hpow.le
  · calc (num / den * 2 ^ (-guess p num den) : ℚ)
        < 2 ^ (num.log2 - den.log2 + 1 : ℤ) * 2 ^ (-guess p num den) :=
          mul_lt_mul_of_pos_right hhigh hpow
      _ = 2 ^ p.bits * 2 := by
          rw [← zpow_add₀ two_ne_zero, hmore, zpow_add_one₀ two_ne_zero, hbits]

/-- A rounded number is the nearest whole number to a multiple of the exact one that has the given
number of bits. -/
theorem ofRatio_eq (p : Precision) (hnum : 0 < num) (hden : 0 < den) :
    ∃ (e : ℤ) (a b : Nat), ofRatio p num den = ⟨nearest a b, e⟩ ∧ 0 < b ∧
      (a : ℚ) / b * 2 ^ e = num / den ∧ (2 : ℚ) ^ p.bits / 2 ≤ a / b ∧
        (a : ℚ) / b < 2 ^ p.bits := by
  let first := scaled num den (guess p num den)
  let e : ℤ := if 2 ^ p.bits * first.2 ≤ first.1 then guess p num den + 1 else guess p num den
  have hround : ofRatio p num den = ⟨nearest (scaled num den e).1 (scaled num den e).2, e⟩ := by
    rw [ofRatio, if_neg (Nat.ne_of_gt hnum)]
    rfl
  obtain ⟨hpos, hratio⟩ := scaled_spec num hden e
  obtain ⟨hlow, hhigh⟩ := guess_bounds p hnum hden
  refine ⟨e, _, _, hround, hpos, ?_, ?_⟩
  · rw [hratio, mul_assoc, ← zpow_add₀ two_ne_zero, neg_add_cancel, zpow_zero, mul_one]
  -- The guess is one too small exactly if it leaves one bit too many.
  have hguess : 2 ^ p.bits * first.2 ≤ first.1 ↔
      (2 : ℚ) ^ p.bits ≤ num / den * 2 ^ (-guess p num den) := by
    obtain ⟨hfirst, hshare⟩ := scaled_spec num hden (guess p num den)
    rw [← hshare, le_div_iff₀ (Nat.cast_pos.mpr hfirst)]
    exact_mod_cast Iff.rfl
  rw [hratio]
  by_cases h : 2 ^ p.bits * first.2 ≤ first.1
  · have hhalf : (2 : ℚ) ^ (-e) = 2 ^ (-guess p num den) / 2 := by
      rw [show e = guess p num den + 1 from if_pos h, neg_add, ← sub_eq_add_neg,
        zpow_sub_one₀ two_ne_zero, div_eq_mul_inv]
    rw [hhalf, ← mul_div_assoc]
    exact ⟨div_le_div_of_nonneg_right (hguess.mp h) two_pos.le, (div_lt_iff₀ two_pos).mpr hhigh⟩
  · rw [show e = guess p num den from if_neg h]
    exact ⟨hlow, lt_of_not_ge fun hle => h (hguess.mpr hle)⟩

/-- The rounded number is off by half a unit of its last place at most. -/
theorem abs_ofRatio_sub_le (p : Precision) (hnum : 0 < num) (hden : 0 < den) :
    |(ofRatio p num den).value - num / den| ≤ num / den / 2 ^ p.bits := by
  obtain ⟨e, a, b, hround, hb, hratio, hlow, _⟩ := ofRatio_eq p hnum hden
  have hpow : (0 : ℚ) < 2 ^ e := zpow_pos two_pos e
  have hbits : (1 : ℚ) / 2 ≤ a / b / 2 ^ p.bits := by
    rw [le_div_iff₀ (pow_pos two_pos _), one_div_mul_eq_div]
    exact hlow
  have hvalue : (ofRatio p num den).value - num / den = (nearest a b - a / b) * 2 ^ e := by
    rw [hround, value, ← hratio, sub_mul]
  calc |(ofRatio p num den).value - num / den|
      = |(nearest a b : ℚ) - a / b| * 2 ^ e := by rw [hvalue, abs_mul, abs_of_pos hpow]
    _ ≤ a / b / 2 ^ p.bits * 2 ^ e := by
      gcongr
      exact (abs_nearest_sub_le a hb).trans hbits
    _ = num / den / 2 ^ p.bits := by rw [← hratio, div_mul_eq_mul_div]

section Units

variable {k n : Nat} {e : ℤ} {x : ℚ}

theorem two_pow_mul_zpow_neg (k : Nat) : (2 : ℚ) ^ k * 2 ^ (-k : ℤ) = 1 := by
  rw [← zpow_natCast, ← zpow_add₀ two_ne_zero, add_neg_cancel, zpow_zero]

/-- A number of few units is below a half, and its nearest whole number of units below one. -/
theorem units_lt_one (hk : 2 ≤ k) (he : e < -k) (hx : x < 2 ^ k) (hn : n - x ≤ 1 / 2) :
    x * 2 ^ e < 1 / 2 ∧ n * (2 : ℚ) ^ e < 1 := by
  have hpow : (0 : ℚ) < 2 ^ e := zpow_pos two_pos e
  have htop : (2 : ℚ) ^ k * 2 ^ e ≤ 1 / 2 := by
    calc (2 : ℚ) ^ k * 2 ^ e ≤ 2 ^ k * 2 ^ (-k - 1 : ℤ) := by
          gcongr
          · exact one_le_two
          · omega
      _ = 1 / 2 := by
          rw [zpow_sub₀ two_ne_zero, zpow_one, mul_div_assoc', two_pow_mul_zpow_neg]
  have hfour : (2 : ℚ) ^ 2 * 2 ^ e ≤ 2 ^ k * 2 ^ e := by
    gcongr
    exact one_le_two
  have hxe : x * 2 ^ e < 2 ^ k * 2 ^ e := mul_lt_mul_of_pos_right hx hpow
  have hne : (n - x) * 2 ^ e ≤ 1 / 2 * 2 ^ e := mul_le_mul_of_nonneg_right hn hpow.le
  constructor <;> linarith

theorem one_le_units (he : -k < e) (hx : (2 : ℚ) ^ k / 2 ≤ x) : 1 ≤ x * 2 ^ e := by
  calc (1 : ℚ) = 2 ^ k / 2 * 2 ^ (-k + 1 : ℤ) := by
        rw [zpow_add₀ two_ne_zero, zpow_one, ← mul_assoc, div_mul_eq_mul_div,
          two_pow_mul_zpow_neg, one_div_mul_cancel two_ne_zero]
    _ ≤ x * 2 ^ e := by
        have hpow : (2 : ℚ) ^ (-k + 1 : ℤ) ≤ 2 ^ e := zpow_le_zpow_right₀ one_le_two he
        exact mul_le_mul hx hpow (zpow_pos two_pos _).le (hx.trans' (by positivity))

end Units

/-- A number is rounded to one or more exactly from half a place below one on. -/
theorem one_le_value_ofRatio_iff (p : Precision) (hnum : 0 < num) (hden : 0 < den) :
    1 ≤ (ofRatio p num den).value ↔ 1 - 1 / 2 / 2 ^ p.bits ≤ (num / den : ℚ) := by
  obtain ⟨e, a, b, hround, hb, hratio, hlow, hhigh⟩ := ofRatio_eq p hnum hden
  have hnear := (abs_sub_le_iff.mp (abs_nearest_sub_le a hb)).1
  have hwhole {k : Nat} (hk : 0 < k) := two_pow_le_nearest_iff a hb hk
  have hbits : 2 ≤ p.bits := by cases p <;> decide
  have hplace : (1 : ℚ) / 2 / 2 ^ p.bits ≤ 1 / 2 :=
    div_le_self one_half_pos.le (one_le_pow₀ one_le_two)
  rw [hround, value, ← hratio]
  generalize (a / b : ℚ) = x at *
  rcases lt_trichotomy e (-p.bits) with he | he | he
  · obtain ⟨hx, hn⟩ := units_lt_one hbits he hhigh hnear
    exact iff_of_false (not_le_of_gt hn) (by linarith)
  · -- One is the first number that has a bit more.
    have hpos : (0 : ℚ) < 2 ^ p.bits := pow_pos two_pos _
    have hunit : (2 : ℚ) ^ e = 1 / 2 ^ p.bits := by
      rw [he, zpow_neg, zpow_natCast, one_div]
    rw [hunit, mul_one_div, mul_one_div, le_div_iff₀ hpos, one_mul, hwhole (by omega),
      le_div_iff₀ hpos, sub_mul, one_mul, div_mul_cancel₀ _ hpos.ne']
  · have hn : (2 : ℚ) ^ p.bits / 2 ≤ nearest a b := by
      obtain ⟨k, hk⟩ := Nat.exists_eq_succ_of_ne_zero (n := p.bits) (by omega)
      rw [hk, pow_succ, mul_div_cancel_right₀ _ two_ne_zero] at hlow ⊢
      exact (hwhole (by omega)).mpr (by linarith)
    have hx := one_le_units he hlow
    have hplace : (0 : ℚ) < 1 / 2 / 2 ^ p.bits := by positivity
    exact iff_of_true (one_le_units he hn) (by linarith)

/-- A rounded number is as near to the exact one as its precision allows. -/
def Rounds (p : Precision) (x : ℚ) (a : Binary) : Prop := |a.value - x| ≤ x / 2 ^ p.bits

theorem Rounds.bounds {x : ℚ} {a : Binary} (h : Rounds p x a) :
    (1 - 1 / 2 ^ p.bits) * x ≤ a.value ∧ a.value ≤ (1 + 1 / 2 ^ p.bits) * x := by
  obtain ⟨hup, hdown⟩ := abs_sub_le_iff.mp h
  rw [sub_mul, add_mul, one_mul, one_div_mul_eq_div]
  constructor <;> linarith

theorem rounds_ofRatio (p : Precision) (num : Nat) (hden : 0 < den) :
    Rounds p (num / den) (ofRatio p num den) := by
  rcases Nat.eq_zero_or_pos num with rfl | hnum
  · simp [Rounds, ofRatio, value, zero]
  · exact abs_ofRatio_sub_le p hnum hden

theorem rounds_add (p : Precision) (a b : Binary) :
    Rounds p (a.value + b.value) (add p a b) := by
  have ha : (a.ratio.2 : ℚ) ≠ 0 := Nat.cast_ne_zero.mpr a.ratio_snd_pos.ne'
  have hb : (b.ratio.2 : ℚ) ≠ 0 := Nat.cast_ne_zero.mpr b.ratio_snd_pos.ne'
  have hround := rounds_ofRatio p (a.ratio.1 * b.ratio.2 + b.ratio.1 * a.ratio.2)
    (Nat.mul_pos a.ratio_snd_pos b.ratio_snd_pos)
  push_cast at hround
  rwa [← ratio_div, ← ratio_div, div_add_div _ _ ha hb, mul_comm (a.ratio.2 : ℚ) b.ratio.1]

/-- A sum of rounded numbers is rounded twice. -/
theorem Rounds.add_bounds {p : Precision} {x y : ℚ} {a b : Binary} (ha : Rounds p x a)
    (hb : Rounds p y b) :
    (1 - 1 / 2 ^ p.bits) ^ 2 * (x + y) ≤ (add p a b).value ∧
      (add p a b).value ≤ (1 + 1 / 2 ^ p.bits) ^ 2 * (x + y) := by
  have hplace : (1 : ℚ) / 2 ^ p.bits ≤ 1 := div_le_self one_pos.le (one_le_pow₀ one_le_two)
  have hshare : (0 : ℚ) ≤ 1 / 2 ^ p.bits := by positivity
  obtain ⟨hxlow, hxhigh⟩ := ha.bounds
  obtain ⟨hylow, hyhigh⟩ := hb.bounds
  obtain ⟨hlow, hhigh⟩ := (rounds_add p a b).bounds
  rw [pow_two, pow_two, mul_assoc, mul_assoc, mul_add, mul_add (1 + 1 / 2 ^ p.bits : ℚ)]
  constructor
  · exact (mul_le_mul_of_nonneg_left (add_le_add hxlow hylow) (by linarith)).trans hlow
  · exact hhigh.trans (mul_le_mul_of_nonneg_left (add_le_add hxhigh hyhigh) (by linarith))

theorem rounds_div (p : Precision) (a : Binary) {b : Binary} (hb : 0 < b.value) :
    Rounds p (a.value / b.value) (div p a b) := by
  have hpos : 0 < b.ratio.1 := by
    rw [← ratio_div] at hb
    refine Nat.pos_of_ne_zero fun h => ?_
    rw [h, Nat.cast_zero, zero_div] at hb
    exact lt_irrefl 0 hb
  have hround := rounds_ofRatio p (a.ratio.1 * b.ratio.2) (Nat.mul_pos a.ratio_snd_pos hpos)
  push_cast at hround
  rwa [← ratio_div, ← ratio_div, div_div_div_eq]

/-- What is rounded counts as one or more from half a place below one on. -/
theorem one_le_round_iff (p : Precision) (a : Binary) :
    one.le (round p a) = true ↔ 1 - 1 / 2 / 2 ^ p.bits ≤ a.value := by
  rw [le_iff, value_one, round, ← ratio_div a]
  rcases Nat.eq_zero_or_pos a.ratio.1 with h | hpos
  · have hplace : (1 : ℚ) / 2 / 2 ^ p.bits ≤ 1 / 2 :=
      div_le_self one_half_pos.le (one_le_pow₀ one_le_two)
    have hzero : (ofRatio p 0 a.ratio.2).value = 0 := by simp [ofRatio, value, zero]
    rw [h, hzero, Nat.cast_zero, zero_div]
    exact iff_of_false (by norm_num) (by linarith)
  · exact one_le_value_ofRatio_iff p hpos a.ratio_snd_pos

end Binary

end StoryEngine
