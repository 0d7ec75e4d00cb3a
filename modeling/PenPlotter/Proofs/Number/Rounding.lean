import Mathlib
import PenPlotter.Number.Decimal

/-!
Rounding by exact values. A quotient stands for a rational number, and rounding it depends on that
number alone. A quotient that stands for the value of a finite magnitude is rounded to that
magnitude.
-/

namespace PenPlotter

namespace Ratio

/-- The rational number that a quotient stands for. -/
def toRat (r : Ratio) : ℚ :=
  r.num / r.den

theorem toRat_nonneg (r : Ratio) : 0 ≤ r.toRat := by
  rw [toRat]
  positivity

theorem toRat_scaled (coefficient base : Nat) (exponent : Int)
    : (scaled coefficient base exponent).toRat = coefficient * (base : ℚ) ^ exponent := by
  rw [scaled, toRat]
  split
  next up =>
    obtain ⟨n, rfl⟩ := Int.eq_ofNat_of_zero_le up
    simp
  next down =>
    obtain ⟨n, rfl⟩ := Int.exists_eq_neg_ofNat (Int.le_of_not_le down)
    simp [div_eq_mul_inv]

theorem den_scaled_pos {base : Nat} (positive : 0 < base) (coefficient : Nat) (exponent : Int)
    : 0 < (scaled coefficient base exponent).den := by
  rw [scaled]
  split
  · exact Nat.one_pos
  · exact Nat.pow_pos positive

/-- Counting in units divides by the unit. -/
theorem toRat_inUnits (r : Ratio) (base : Nat) (exponent : Int)
    : (r.inUnits base exponent).toRat = r.toRat / (base : ℚ) ^ exponent := by
  rw [inUnits, toRat, toRat]
  split
  next up =>
    obtain ⟨n, rfl⟩ := Int.eq_ofNat_of_zero_le up
    simp [div_div]
  next down =>
    obtain ⟨n, rfl⟩ := Int.exists_eq_neg_ofNat (Int.le_of_not_le down)
    simp [mul_div_right_comm]

theorem den_inUnits_pos {r : Ratio} {base : Nat} (positive : 0 < base) (exponent : Int)
    (den : 0 < r.den)
    : 0 < (r.inUnits base exponent).den := by
  rw [inUnits]
  split
  · exact Nat.mul_pos den (Nat.pow_pos positive)
  · exact den

theorem floor_eq (r : Ratio) : r.floor = ⌊r.toRat⌋₊ := by
  rw [floor, toRat, Nat.floor_div_eq_div]

/-- A quotient that stands for a natural number is counted as that number of denominators. -/
theorem num_eq_of_toRat {r : Ratio} (den : 0 < r.den) {n : Nat} (whole : r.toRat = n)
    : r.num = n * r.den := by
  have nonzero : (r.den : ℚ) ≠ 0 := by positivity
  rw [toRat, div_eq_iff nonzero] at whole
  exact_mod_cast whole

theorem num_pos_of_toRat {r : Ratio} (positive : 0 < r.toRat) : 0 < r.num := by
  rw [Nat.pos_iff_ne_zero]
  intro none
  rw [toRat, none, Nat.cast_zero, zero_div] at positive
  exact lt_irrefl 0 positive

/-- A natural number is rounded to itself. -/
theorem roundHalfEven_of_toRat {r : Ratio} (den : 0 < r.den) {n : Nat} (whole : r.toRat = n)
    : r.roundHalfEven = n := by
  have num := num_eq_of_toRat den whole
  have near : r.compareHalf = .lt := by
    rw [compareHalf, num, Nat.mul_mod_left, Nat.compare_eq_lt]
    exact den
  rw [roundHalfEven, near]
  change r.num / r.den = n
  rw [num, Nat.mul_div_cancel n den]

/-- A positive natural number lies from one power of two up to the next. -/
theorem natCast_log2_bounds {n : Nat} (positive : 0 < n)
    : (2 : ℚ) ^ (n.log2 : ℤ) ≤ n ∧ (n : ℚ) < 2 ^ ((n.log2 : ℤ) + 1) := by
  constructor
  · exact_mod_cast Nat.log2_self_le positive.ne'
  · exact_mod_cast Nat.lt_log2_self

/-- The logarithm is told by the powers of two around a number. -/
theorem log_eq_of_bounds {x : ℚ} {k : ℤ} (low : (2 : ℚ) ^ k ≤ x) (high : x < 2 ^ (k + 1))
    : Int.log 2 x = k := by
  have positive : 0 < x := lt_of_lt_of_le (by positivity) low
  have above : k ≤ Int.log 2 x :=
    (Int.zpow_le_iff_le_log one_lt_two positive).mp (by exact_mod_cast low)
  have below : Int.log 2 x < k + 1 :=
    (Int.lt_zpow_iff_log_lt one_lt_two positive).mp (by exact_mod_cast high)
  omega

/-- The sizes of numerator and denominator leave two powers of two for a quotient. -/
theorem toRat_bounds {r : Ratio} (num : 0 < r.num) (den : 0 < r.den)
    : let guess : ℤ := r.num.log2 - r.den.log2
      (2 : ℚ) ^ (guess - 1) ≤ r.toRat ∧ r.toRat < 2 ^ (guess + 1) := by
  intro guess
  obtain ⟨numLow, numHigh⟩ := natCast_log2_bounds num
  obtain ⟨denLow, denHigh⟩ := natCast_log2_bounds den
  have two : (2 : ℚ) ≠ 0 := two_ne_zero
  constructor
  · calc (2 : ℚ) ^ (guess - 1)
        = 2 ^ (r.num.log2 : ℤ) / 2 ^ ((r.den.log2 : ℤ) + 1) := by
          rw [← zpow_sub₀ two, sub_sub]
      _ ≤ r.num / 2 ^ ((r.den.log2 : ℤ) + 1) := by gcongr
      _ ≤ r.num / r.den := by gcongr
  · calc (r.num : ℚ) / r.den
        ≤ r.num / 2 ^ (r.den.log2 : ℤ) := by gcongr
      _ < 2 ^ ((r.num.log2 : ℤ) + 1) / 2 ^ (r.den.log2 : ℤ) := by gcongr
      _ = 2 ^ (guess + 1) := by
          rw [← zpow_sub₀ two, add_sub_right_comm]

/-- The exponent that is found is the logarithm of the number that the quotient stands for. Of the
two candidates the comparison takes the right one.
-/
theorem floorLog2_eq {r : Ratio} (num : 0 < r.num) (den : 0 < r.den)
    : r.floorLog2 = Int.log 2 r.toRat := by
  obtain ⟨low, high⟩ := toRat_bounds num den
  rw [floorLog2]
  generalize (r.num.log2 : ℤ) - r.den.log2 = guess at low high ⊢
  have unit : (0 : ℚ) < 2 ^ guess := by positivity
  have small : (r.inUnits 2 guess).floor = 0 ↔ r.toRat < 2 ^ guess := by
    rw [floor_eq, toRat_inUnits, Nat.floor_eq_zero, Nat.cast_ofNat, div_lt_one unit]
  simp only [small]
  split
  next below =>
    refine (log_eq_of_bounds low ?_).symm
    rwa [sub_add_cancel]
  next above => exact (log_eq_of_bounds (not_lt.mp above) high).symm

/-- A power of two as a factor adds its exponent to the logarithm. -/
theorem log_mul_zpow {n : Nat} (positive : 0 < n) (k : ℤ)
    : Int.log 2 ((n : ℚ) * 2 ^ k) = n.log2 + k := by
  obtain ⟨low, high⟩ := natCast_log2_bounds positive
  have two : (2 : ℚ) ≠ 0 := two_ne_zero
  apply log_eq_of_bounds
  · rw [zpow_add₀ two]
    gcongr
  · rw [add_right_comm, zpow_add₀ two]
    gcongr

end Ratio

-----------------------------------------------------------------------------------------
-- Magnitudes
-----------------------------------------------------------------------------------------

namespace BinaryFormat

variable (f : BinaryFormat)

theorem step_pos : 0 < f.step :=
  Nat.pow_pos Nat.two_pos

theorem toRat_value (magnitude : Nat)
    : (f.value magnitude).toRat = f.significand magnitude * 2 ^ f.exponent magnitude :=
  Ratio.toRat_scaled _ 2 _

/-- A magnitude below the first octave is its own significand, at the least exponent. Any other
stands at some place in an octave: its significand has a leading bit before that place, and its
exponent counts the octaves.
-/
theorem magnitude_cases (magnitude : Nat)
    : (magnitude < f.step
        ∧ f.significand magnitude = magnitude
        ∧ f.exponent magnitude = f.leastExponent)
      ∨ ∃ octave place,
          place < f.step
          ∧ magnitude = octave * f.step + f.step + place
          ∧ f.significand magnitude = f.step + place
          ∧ f.exponent magnitude = f.leastExponent + octave := by
  have step := f.step_pos
  rw [significand, exponent]
  cases known : magnitude / f.step with
  | zero =>
      have small : magnitude < f.step := (Nat.div_eq_zero_iff_lt step).mp known
      exact Or.inl ⟨small, rfl, by simp⟩
  | succ octave =>
      refine Or.inr ⟨octave, magnitude % f.step, Nat.mod_lt magnitude step, ?_, ?_, rfl⟩
      · rw [← Nat.succ_mul, Nat.succ_eq_add_one, ← known, Nat.div_add_mod']
      · rw [if_neg octave.succ_ne_zero, Nat.add_comm]

theorem significand_pos {magnitude : Nat} (positive : 0 < magnitude)
    : 0 < f.significand magnitude := by
  have step := f.step_pos
  rcases f.magnitude_cases magnitude with ⟨-, same, -⟩ | ⟨octave, place, -, -, same, -⟩ <;> omega

/-- The last place of a significand is at its exponent, unless a larger one would do. -/
theorem exponent_eq {magnitude : Nat} (positive : 0 < magnitude)
    : max ((f.significand magnitude).log2 + f.exponent magnitude - f.fractionBits)
        f.leastExponent
      = f.exponent magnitude := by
  rcases f.magnitude_cases magnitude with
    ⟨small, same, least⟩ | ⟨octave, place, inside, -, same, up⟩
  · have bits : magnitude.log2 < f.fractionBits := (Nat.log2_lt positive.ne').mpr small
    rw [same, least]
    omega
  · have bits : (f.step + place).log2 = f.fractionBits := by
      refine (Nat.log2_eq_iff (Nat.add_pos_left f.step_pos place).ne').mpr ⟨?_, ?_⟩
      · exact Nat.le_add_right _ place
      · rw [Nat.pow_succ, Nat.mul_two]
        exact Nat.add_lt_add_left inside _
    rw [same, up, bits]
    omega

/-- A magnitude counts the octaves before it and then its significand. -/
theorem octaves_add_significand (magnitude : Nat)
    : (f.exponent magnitude - f.leastExponent).toNat * f.step + f.significand magnitude
      = magnitude := by
  rcases f.magnitude_cases magnitude with
    ⟨-, same, least⟩ | ⟨octave, place, -, split, same, up⟩
  · rw [same, least, sub_self, Int.toNat_zero, Nat.zero_mul, Nat.zero_add]
  · rw [same, up, add_sub_cancel_left, Int.toNat_natCast, ← Nat.add_assoc, ← split]

theorem nearest_of_num_pos {r : Ratio} (num : 0 < r.num)
    : f.nearest r
      = min
          ((f.lastPlace r - f.leastExponent).toNat * f.step
            + (r.inUnits 2 (f.lastPlace r)).roundHalfEven)
          f.infinity := by
  rw [nearest, if_neg num.ne']

/-- A quotient that stands for the value of a finite magnitude is rounded to that magnitude: its
last place is the one of the magnitude, and the significand counts it there.
-/
theorem nearest_of_toRat {r : Ratio} {magnitude : Nat} (den : 0 < r.den)
    (finite : magnitude < f.infinity) (same : r.toRat = (f.value magnitude).toRat)
    : f.nearest r = magnitude := by
  rw [toRat_value] at same
  rcases Nat.eq_zero_or_pos magnitude with rfl | positive
  · have zero : r.toRat = (0 : ℕ) := by
      rw [same, significand, Nat.zero_div, if_pos rfl, Nat.cast_zero, zero_mul]
    have none := Ratio.num_eq_of_toRat den zero
    rw [nearest, if_pos (none.trans (Nat.zero_mul _))]
  · have significant := f.significand_pos positive
    have num : 0 < r.num := by
      apply Ratio.num_pos_of_toRat
      rw [same]
      positivity
    have place : f.lastPlace r = f.exponent magnitude := by
      rw [lastPlace, Ratio.floorLog2_eq num den, same, Ratio.log_mul_zpow significant,
        f.exponent_eq positive]
    have counted
        : (r.inUnits 2 (f.exponent magnitude)).roundHalfEven = f.significand magnitude := by
      apply Ratio.roundHalfEven_of_toRat (Ratio.den_inUnits_pos Nat.two_pos _ den)
      rw [Ratio.toRat_inUnits, same, Nat.cast_ofNat, mul_div_cancel_right₀]
      positivity
    rw [f.nearest_of_num_pos num, place, counted, f.octaves_add_significand,
      Nat.min_eq_left finite.le]

end BinaryFormat

end PenPlotter
