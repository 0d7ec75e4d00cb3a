import PenPlotter.Number.Text
import PenPlotter.Proofs.Number.Rounding

/-!
The shortest decimal of a finite magnitude rounds to that magnitude. A point that is picked is
tried first, and the finest grid holds the exact value. Positional notation writes the zeros of a
large number out, which leaves its value as it is.
-/

namespace PenPlotter

-----------------------------------------------------------------------------------------
-- Decimals without shortcuts
-----------------------------------------------------------------------------------------

namespace Decimal

variable {f : BinaryFormat} {d : Decimal}

theorem num_ratio_eq_zero (zero : d.coefficient = 0) : d.ratio.num = 0 := by
  rw [ratio, Ratio.scaled, zero]
  split
  · exact Nat.zero_mul _
  · rfl

/-- A decimal of no extreme exponent is rounded as its quotient. -/
theorem nearest_eq_ratio (notHuge : d.exponent ≤ (2 ^ f.exponentBits : Nat))
    (notTiny : 0 ≤ d.exponent + (2 ^ f.exponentBits : Nat))
    : d.nearest f = f.nearest d.ratio := by
  have large : ¬((Nat.pow 2 f.exponentBits : Nat) : Int) < d.exponent := not_lt.mpr notHuge
  have small : ¬d.exponent + (Nat.pow 2 f.exponentBits : Nat) + d.coefficient.log2 < 0 := by
    have bits : (0 : Int) ≤ d.coefficient.log2 := Int.natCast_nonneg _
    exact not_lt.mpr (add_nonneg notTiny bits)
  rw [nearest, if_neg large, if_neg small]
  split
  next zero => rw [BinaryFormat.nearest, if_pos (num_ratio_eq_zero zero)]
  next => rfl

theorem nearest_of_huge (some : d.coefficient ≠ 0)
    (huge : ((2 ^ f.exponentBits : Nat) : Int) < d.exponent)
    : d.nearest f = f.infinity := by
  have large : ((Nat.pow 2 f.exponentBits : Nat) : Int) < d.exponent := huge
  rw [nearest, if_neg some, if_pos large]

/-- A decimal as positional notation shows it: with its zeros before the point among the digits. -/
def writtenOut (d : Decimal) : Decimal :=
  if 0 ≤ d.exponent then ⟨d.coefficient * 10 ^ d.exponent.toNat, 0⟩ else d

/-- Writing zeros out does not change what a decimal is rounded to, if that is finite. -/
theorem nearest_writtenOut (finite : d.nearest f < f.infinity)
    : d.writtenOut.nearest f = d.nearest f := by
  rw [writtenOut]
  split
  next whole =>
    have ratios : Decimal.ratio ⟨d.coefficient * 10 ^ d.exponent.toNat, 0⟩ = d.ratio := by
      rw [ratio, ratio, Ratio.scaled, Ratio.scaled, if_pos le_rfl, if_pos whole]
      simp
    have expanded
        : Decimal.nearest f ⟨d.coefficient * 10 ^ d.exponent.toNat, 0⟩ = f.nearest d.ratio := by
      rw [← ratios]
      exact nearest_eq_ratio (Int.natCast_nonneg _) (by simp)
    rw [expanded]
    by_cases huge : ((2 ^ f.exponentBits : Nat) : Int) < d.exponent
    · -- A coefficient of zero is the only one that so large an exponent leaves finite.
      have zero : d.coefficient = 0 := by
        by_contra some
        exact finite.ne (nearest_of_huge some huge)
      rw [nearest, if_pos zero, ← ratios, zero, Nat.zero_mul]
      rfl
    · exact (nearest_eq_ratio (not_lt.mp huge) (add_nonneg whole (Int.natCast_nonneg _))).symm
  next => rfl

end Decimal

-----------------------------------------------------------------------------------------
-- The search
-----------------------------------------------------------------------------------------

namespace Shortest

variable {f : BinaryFormat} {magnitude : Nat}

/-- Only a point that reads back is picked. -/
theorem nearest_of_pick? {grid : Int} {point : Nat}
    (picked : pick? f magnitude grid = some point)
    : (Decimal.mk point grid).nearest f = magnitude := by
  rw [pick?] at picked
  split at picked
  next low high =>
    obtain rfl := Option.some.inj picked
    split
    · exact of_decide_eq_true low
    · exact of_decide_eq_true high
  next low high =>
    obtain rfl := Option.some.inj picked
    exact of_decide_eq_true low
  next low high =>
    obtain rfl := Option.some.inj picked
    exact of_decide_eq_true high
  next => cases picked

/-- The value of a magnitude is a point of the finest grid, since a power of two divides the power
of ten of the same exponent.
-/
theorem exists_point_of_finestGrid (f : BinaryFormat) (magnitude : Nat)
    : ∃ point : Nat,
        (f.value magnitude).toRat = point * (10 : ℚ) ^ finestGrid f magnitude := by
  rw [f.toRat_value, finestGrid]
  generalize f.significand magnitude = significand
  rcases le_total 0 (f.exponent magnitude) with up | down
  · obtain ⟨n, known⟩ := Int.eq_ofNat_of_zero_le up
    rw [min_eq_left up, known]
    exact ⟨significand * 2 ^ n, by simp⟩
  · obtain ⟨n, known⟩ := Int.exists_eq_neg_ofNat down
    rw [min_eq_right down, known]
    refine ⟨significand * 5 ^ n, ?_⟩
    have ten : (10 : ℚ) = 5 * 2 := by norm_num
    rw [ten, mul_zpow]
    simp [mul_assoc]

/-- The point taken on the finest grid stands for the exact value. -/
theorem toRat_finest (f : BinaryFormat) (magnitude : Nat)
    : let grid := finestGrid f magnitude
      (Decimal.mk ((f.value magnitude).inUnits 10 grid).floor grid).ratio.toRat
        = (f.value magnitude).toRat := by
  intro grid
  obtain ⟨point, exact⟩ := exists_point_of_finestGrid f magnitude
  have whole : ((f.value magnitude).inUnits 10 grid).floor = point := by
    rw [Ratio.floor_eq, Ratio.toRat_inUnits, exact, Nat.cast_ofNat, mul_div_cancel_right₀,
      Nat.floor_natCast]
    positivity
  rw [whole, Decimal.ratio, Ratio.toRat_scaled, exact, Nat.cast_ofNat]

/-- The grids are no finer than the format allows for. -/
theorem finestGrid_bounds (deep : 0 ≤ f.leastExponent + (2 ^ f.exponentBits : Nat))
    (magnitude : Nat)
    : finestGrid f magnitude ≤ 0
      ∧ 0 ≤ finestGrid f magnitude + (2 ^ f.exponentBits : Nat) := by
  rw [finestGrid, BinaryFormat.exponent]
  generalize 2 ^ f.exponentBits = bound at deep ⊢
  omega

/-- A search that can reach the finest grid ends with a decimal that rounds to the magnitude. By
induction on the tries that are left.
-/
theorem nearest_search (deep : 0 ≤ f.leastExponent + (2 ^ f.exponentBits : Nat))
    (finite : magnitude < f.infinity) {tries : Nat} {grid : Int}
    (reaches : grid = finestGrid f magnitude + tries)
    : (search f magnitude tries grid).nearest f = magnitude := by
  induction tries generalizing grid with
  | zero =>
      obtain rfl : grid = finestGrid f magnitude := by simpa using reaches
      obtain ⟨notPositive, bounded⟩ := finestGrid_bounds deep magnitude
      rw [search, Decimal.nearest_eq_ratio (notPositive.trans (Int.natCast_nonneg _)) bounded]
      apply f.nearest_of_toRat ?_ finite (toRat_finest f magnitude)
      exact Ratio.den_scaled_pos (by decide) _ _
  | succ tries ih =>
      rw [search]
      split
      next point picked => exact nearest_of_pick? picked
      next => exact ih (by rw [reaches]; push_cast; ring)

theorem finestGrid_le_coarsestGrid (f : BinaryFormat) (magnitude : Nat)
    : finestGrid f magnitude ≤ coarsestGrid f magnitude := by
  rw [finestGrid, coarsestGrid]
  omega

/-- The shortest decimal of a finite magnitude rounds to it. -/
theorem nearest_decimal (deep : 0 ≤ f.leastExponent + (2 ^ f.exponentBits : Nat))
    (finite : magnitude < f.infinity)
    : (decimal f magnitude).nearest f = magnitude := by
  have order := finestGrid_le_coarsestGrid f magnitude
  rw [decimal]
  split
  next zero =>
    rw [zero]
    rfl
  next =>
    apply nearest_search deep finite
    omega

end Shortest

end PenPlotter
