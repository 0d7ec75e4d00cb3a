import PenPlotter.Proofs.Number.Packing

/-!
Arithmetic is exact up to one rounding. A finite number stands for a rational one, and the
difference or the product of two finite numbers is what the exact difference or product is rounded
to. So it is finite when the exact one is below the overflow.
-/

namespace PenPlotter.BinaryFloat

open Float.Model (UnpackedFloat)
open BinaryFormat (binary64)

-----------------------------------------------------------------------------------------
-- Exact values
-----------------------------------------------------------------------------------------

/-- A size with a sign. -/
def signed (negative : Bool) (size : ℚ) : ℚ :=
  if negative then -size else size

theorem abs_signed {size : ℚ} (positive : 0 ≤ size) (negative : Bool)
    : |signed negative size| = size := by
  rw [signed]
  split
  · rw [abs_neg, abs_of_nonneg positive]
  · exact abs_of_nonneg positive

/-- The rational number that a finite number stands for. -/
def toRat (x : Float) : ℚ :=
  signed (isNegative x) (binary64.value (magnitude x)).toRat

/-- A floating-point number is what a rational number is rounded to. The sign of zero is open. -/
def IsRounding (x : Float) (exact : ℚ) : Prop :=
  ∃ negative r, 0 < r.den ∧ x = ofRatio negative r ∧ exact = signed negative r.toRat

/-- A rational number is rounded to a finite number if its size is below the overflow. -/
theorem IsRounding.isFinite_iff {x : Float} {exact : ℚ} (rounding : IsRounding x exact)
    : isFinite x = true ↔ |exact| < binary64.overflow := by
  obtain ⟨negative, r, den, rfl, rfl⟩ := rounding
  have size : magnitude (ofRatio negative r : Float) = binary64.nearest r :=
    magnitude_ofMagnitude negative (BinaryFormat.nearest_le_infinity r)
  rw [isFinite, decide_eq_true_iff, size, abs_signed (Ratio.toRat_nonneg r)]
  exact BinaryFormat.nearest_lt_infinity_iff (by decide) (by decide) den

theorem isRounding_ofMagnitude (negative : Bool) {magnitude : Nat}
    (finite : magnitude < binary64.infinity)
    : IsRounding (ofMagnitude negative magnitude)
        (signed negative (binary64.value magnitude).toRat) := by
  have den : 0 < (binary64.value magnitude).den := Ratio.den_scaled_pos Nat.two_pos _ _
  refine ⟨negative, binary64.value magnitude, den, ?_, rfl⟩
  change _ = ofMagnitude negative (binary64.nearest (binary64.value magnitude))
  rw [binary64.nearest_of_toRat den finite rfl]

theorem isRounding_zero (negative : Bool)
    : IsRounding (Float.ofModel (.pack (.zero (signOf negative)))) 0 := by
  have zero := isRounding_ofMagnitude negative (by decide : 0 < binary64.infinity)
  rw [BinaryFormat.toRat_value_zero] at zero
  rw [ofModel_pack_zero]
  cases negative <;> simpa [signed] using zero

/-- The parts of a magnitude are put together to this magnitude. -/
theorem ofModel_pack_parts (negative : Bool) {magnitude : Nat} (some : 0 < magnitude)
    (finite : magnitude < binary64.infinity)
    : Float.ofModel (.pack
          (.finite (signOf negative) (binary64.significand magnitude)
            (binary64.exponent magnitude) (binary64.significand_pos some)))
      = ofMagnitude negative magnitude := by
  have step : binary64.step = 2 ^ 52 := rfl
  have least : binary64.leastExponent = -1074 := rfl
  have counted := binary64.octaves_add_significand magnitude
  have significant := binary64.significand_pos some
  have parts
      : ∃ octaves : Nat,
          binary64.exponent magnitude = -1074 + octaves
          ∧ (octaves = 0 ∨ 2 ^ 52 ≤ binary64.significand magnitude)
          ∧ binary64.significand magnitude < 2 ^ 53 := by
    rcases binary64.magnitude_cases magnitude with
      ⟨small, same, first⟩ | ⟨octave, place, inside, -, same, later⟩
    · exact ⟨0, by omega, Or.inl rfl, by omega⟩
    · exact ⟨octave, by omega, Or.inr (by omega), by omega⟩
  obtain ⟨octaves, known, normal, inside⟩ := parts
  have passed : (binary64.exponent magnitude - binary64.leastExponent).toNat = octaves := by
    omega
  rw [passed, step] at counted
  have packed := ofModel_pack_finite negative significant normal inside
  rwa [← known, counted, Nat.min_eq_left finite.le] at packed

theorem isRounding_parts (negative : Bool) {magnitude : Nat} (some : 0 < magnitude)
    (finite : magnitude < binary64.infinity)
    : IsRounding
        (Float.ofModel (.pack
          (.finite (signOf negative) (binary64.significand magnitude)
            (binary64.exponent magnitude) (binary64.significand_pos some))))
        (signed negative (binary64.value magnitude).toRat) := by
  rw [ofModel_pack_parts negative some finite]
  exact isRounding_ofMagnitude negative finite

/-- Rounding with all bits gives what the exact number is rounded to. -/
theorem isRounding_roundWithAccuracy (negative : Bool) {mantissa : Nat} {exponent : Int}
    (some : 0 < mantissa) (fine : exponent ≤ max (mantissa.log2 + exponent - 52) (-1074))
    : IsRounding
        (Float.ofModel (.pack
          (.roundWithAccuracy .binary64 (signOf negative) mantissa exponent .exact)))
        (signed negative (mantissa * 2 ^ exponent)) := by
  refine ⟨negative, .scaled mantissa 2 exponent, Ratio.den_scaled_pos Nat.two_pos _ _, ?_, ?_⟩
  · exact ofModel_pack_roundWithAccuracy negative some fine
  · rw [Ratio.toRat_scaled, Nat.cast_ofNat]

/-- A product has at least the bits of its factors, without the leading one of either. -/
theorem log2_add_log2_le {m n : Nat} (left : 0 < m) (right : 0 < n)
    : m.log2 + n.log2 ≤ (m * n).log2 := by
  rw [Nat.le_log2 (Nat.mul_pos left right).ne', Nat.pow_add]
  exact Nat.mul_le_mul (Nat.log2_self_le left.ne') (Nat.log2_self_le right.ne')

/-- A mantissa is made fine enough before it is rounded, which leaves its value as it is. -/
theorem isRounding_round (negative : Bool) {mantissa : Nat} (exponent : Int) (some : 0 < mantissa)
    : IsRounding
        (Float.ofModel (.pack (.round .binary64 (signOf negative) mantissa exponent)))
        (signed negative (mantissa * 2 ^ exponent)) := by
  rw [UnpackedFloat.round, targetExponent_eq, UnpackedFloat.decreaseExponent]
  dsimp only
  generalize known : (exponent - max (mantissa.log2 + exponent - 52) (-1074)).toNat = places
  have unit := Nat.two_pow_pos places
  have bits := log2_add_log2_le some unit
  have same
      : ((mantissa * 2 ^ places : Nat) : ℚ) * 2 ^ (exponent - places)
        = mantissa * 2 ^ exponent := by
    rw [zpow_sub₀ two_ne_zero, zpow_natCast]
    push_cast
    field_simp
  rw [Nat.shiftLeft_eq, ← same]
  apply isRounding_roundWithAccuracy negative (Nat.mul_pos some unit)
  rw [Nat.log2_two_pow] at bits
  omega

/-- A signed mantissa is rounded by its size. -/
theorem isRounding_normalize (mantissa exponent : Int)
    : IsRounding
        (Float.ofModel (.pack (.normalize .binary64 mantissa exponent .positive)))
        (mantissa * 2 ^ exponent) := by
  rw [UnpackedFloat.normalize]
  rcases lt_trichotomy mantissa 0 with negative | rfl | positive
  · obtain ⟨size, rfl⟩ := Int.exists_eq_neg_ofNat negative.le
    have rounding := isRounding_round true exponent (by omega : 0 < size)
    rw [Int.compare_eq_lt.mpr negative]
    simpa [signed, signOf] using rounding
  · simpa [signOf] using isRounding_zero false
  · obtain ⟨size, rfl⟩ := Int.eq_ofNat_of_zero_le positive.le
    have rounding := isRounding_round false exponent (by omega : 0 < size)
    rw [Int.compare_eq_gt.mpr positive]
    simpa [signed, signOf] using rounding

-----------------------------------------------------------------------------------------
-- Differences and products
-----------------------------------------------------------------------------------------

theorem signed_mul (negative : Bool) (size factor : ℚ)
    : signed negative size * factor = signed negative (size * factor) := by
  cases negative with
  | true => exact neg_mul size factor
  | false => rfl

theorem apply_signOf (negative : Bool) (size : Nat)
    : (((signOf negative).apply size : ℤ) : ℚ) = signed negative size := by
  cases negative with
  | true => exact Int.cast_neg _
  | false => rfl

/-- A mantissa is counted in smaller units. -/
theorem signed_shiftLeft (negative : Bool) (mantissa : Nat) {exponent smaller : Int}
    (finer : smaller ≤ exponent)
    : (((signOf negative).apply (mantissa <<< (exponent - smaller).toNat : Nat) : ℤ) : ℚ)
        * 2 ^ smaller
      = signed negative (mantissa * 2 ^ exponent) := by
  obtain ⟨places, rfl⟩ := Int.le.dest finer
  rw [apply_signOf, signed_mul, add_sub_cancel_left, Int.toNat_natCast, Nat.shiftLeft_eq,
    zpow_add₀ two_ne_zero, zpow_natCast]
  push_cast
  ring_nf

theorem neg_signed (negative : Bool) (size : ℚ)
    : -signed negative size = signed (!negative) size := by
  cases negative with
  | true => exact neg_neg size
  | false => rfl

theorem neg_signOf (negative : Bool) : -signOf negative = signOf (!negative) := by
  cases negative <;> rfl

variable {x y : Float}

theorem toRat_of_zero (zero : magnitude x = 0) : toRat x = 0 := by
  rw [toRat, zero, BinaryFormat.toRat_value_zero]
  cases isNegative x <;> simp [signed]

/-- The difference of finite numbers is what their exact difference is rounded to. If one is zero
it is the other, and else the mantissas are brought to one exponent and subtracted.
-/
theorem isRounding_sub (left : isFinite x = true) (right : isFinite y = true)
    : IsRounding (x - y) (toRat x - toRat y) := by
  have below : magnitude x < binary64.infinity := of_decide_eq_true left
  have belowToo : magnitude y < binary64.infinity := of_decide_eq_true right
  change IsRounding
    (Float.ofModel (.pack (.sub .binary64 x.toModel.unpack y.toModel.unpack))) _
  rw [unpack_eq below, unpack_eq belowToo]
  split
  next zero =>
    rw [toRat_of_zero zero]
    split
    next zeroToo =>
      rw [toRat_of_zero zeroToo, sub_self, UnpackedFloat.sub]
      split
      · exact isRounding_zero _
      · exact isRounding_zero false
    next someToo =>
      rw [zero_sub, toRat, neg_signed, UnpackedFloat.sub, neg_signOf]
      exact isRounding_parts _ (Nat.pos_of_ne_zero someToo) belowToo
  next some =>
    split
    next zeroToo =>
      rw [toRat_of_zero zeroToo, sub_zero]
      exact isRounding_parts _ (Nat.pos_of_ne_zero some) below
    next someToo =>
      rw [toRat, toRat, BinaryFormat.toRat_value, BinaryFormat.toRat_value,
        ← signed_shiftLeft _ _ (min_le_left _ (binary64.exponent (magnitude y))),
        ← signed_shiftLeft (isNegative y) _ (min_le_right (binary64.exponent (magnitude x)) _),
        ← sub_mul, ← Int.cast_sub]
      exact isRounding_normalize _ _

theorem signOf_mul (negative other : Bool)
    : signOf negative * signOf other = signOf (negative ^^ other) := by
  cases negative <;> cases other <;> rfl

theorem signed_mul_signed (negative other : Bool) (size factor : ℚ)
    : signed negative size * signed other factor = signed (negative ^^ other) (size * factor) := by
  cases negative <;> cases other <;> simp [signed]

/-- The exact product of two values is put together from the products of their parts. -/
theorem toRat_value_mul (m n : Nat)
    : (binary64.value m).toRat * (binary64.value n).toRat
      = (binary64.significand m * binary64.significand n : Nat)
        * 2 ^ (binary64.exponent m + binary64.exponent n) := by
  rw [BinaryFormat.toRat_value, BinaryFormat.toRat_value, zpow_add₀ two_ne_zero]
  push_cast
  ring

/-- A value that is not of the least exponent has all bits, so a product of two is fine enough to be
rounded.
-/
theorem exponent_mul_le {m n : Nat} (left : 0 < m) (right : 0 < n)
    : binary64.exponent m + binary64.exponent n
      ≤ max ((binary64.significand m * binary64.significand n).log2
            + (binary64.exponent m + binary64.exponent n) - 52)
          (-1074) := by
  have place := binary64.exponent_eq left
  have placeToo := binary64.exponent_eq right
  have bits := log2_add_log2_le (binary64.significand_pos left) (binary64.significand_pos right)
  have least : binary64.leastExponent = -1074 := rfl
  have width : binary64.fractionBits = 52 := rfl
  rw [least, width] at place placeToo
  omega

/-- The product of finite numbers is what their exact product is rounded to. If one is zero it is
zero, and else the mantissas are multiplied and rounded once.
-/
theorem isRounding_mul (left : isFinite x = true) (right : isFinite y = true)
    : IsRounding (x * y) (toRat x * toRat y) := by
  have below : magnitude x < binary64.infinity := of_decide_eq_true left
  have belowToo : magnitude y < binary64.infinity := of_decide_eq_true right
  change IsRounding
    (Float.ofModel (.pack (.mul .binary64 x.toModel.unpack y.toModel.unpack))) _
  rw [unpack_eq below, unpack_eq belowToo]
  split
  next zero =>
    rw [toRat_of_zero zero, zero_mul]
    split
    next zeroToo =>
      rw [UnpackedFloat.mul, signOf_mul]
      exact isRounding_zero _
    next someToo =>
      rw [UnpackedFloat.mul, signOf_mul]
      exact isRounding_zero _
  next some =>
    split
    next zeroToo =>
      rw [toRat_of_zero zeroToo, mul_zero, UnpackedFloat.mul, signOf_mul]
      exact isRounding_zero _
    next someToo =>
      have positive := Nat.pos_of_ne_zero some
      have positiveToo := Nat.pos_of_ne_zero someToo
      rw [toRat, toRat, signed_mul_signed, toRat_value_mul, UnpackedFloat.mul, signOf_mul]
      apply isRounding_roundWithAccuracy
      · exact Nat.mul_pos (binary64.significand_pos positive) (binary64.significand_pos positiveToo)
      · exact exponent_mul_le positive positiveToo

/-- A difference is finite if the exact one is below the overflow. -/
theorem isFinite_sub_iff (left : x.isFinite = true) (right : y.isFinite = true)
    : (x - y).isFinite = true ↔ |toRat x - toRat y| < 2 ^ 1024 - 2 ^ 970 := by
  rw [← isFinite_eq] at left right ⊢
  rw [(isRounding_sub left right).isFinite_iff, BinaryFormat.overflow_binary64]

/-- A product is finite if the exact one is below the overflow. -/
theorem isFinite_mul_iff (left : x.isFinite = true) (right : y.isFinite = true)
    : (x * y).isFinite = true ↔ |toRat x * toRat y| < 2 ^ 1024 - 2 ^ 970 := by
  rw [← isFinite_eq] at left right ⊢
  rw [(isRounding_mul left right).isFinite_iff, BinaryFormat.overflow_binary64]

theorem toRat_two : toRat 2 = 2 := by
  have sign : isNegative (2 : Float) = false := by decide
  have size : magnitude (2 : Float) = 1023 * binary64.step + binary64.step := by decide
  have place : binary64.leastExponent + (1023 : Nat) = -51 := rfl
  have step : binary64.step = 2 ^ 52 := rfl
  rw [toRat, sign, size, BinaryFormat.toRat_value_of_octaves _ (.inr le_rfl) (by decide), signed,
    if_neg Bool.false_ne_true, place, step]
  norm_num

end PenPlotter.BinaryFloat
