import PenPlotter.Proofs.Number.Nearest
import PenPlotter.Proofs.Number.Text

/-!
How operations on numbers round their results and take numbers apart. A mantissa is shifted with
two bits that remember what is dropped, is rounded by these, and is packed into a pattern. This
gives the number nearest to the exact one, and the parts of a finite number are those of its
magnitude.
-/

namespace PenPlotter

open Float.Model (Format UnpackedFloat)
open Float.Model.UnpackedFloat (ExtendedMantissa Sign)
open BinaryFormat (binary64)

-----------------------------------------------------------------------------------------
-- Shifts that remember what they drop
-----------------------------------------------------------------------------------------

/-- After a shift the two bits beside the mantissa tell on which side of one half the dropped bits
are, and whether they are there at all. By induction on the places of the shift.
-/
theorem shiftRight_eq (mantissa places : Nat)
    : (⟨mantissa, false, false⟩ : ExtendedMantissa) >>> places
      = ⟨mantissa / 2 ^ places,
          decide (2 ^ places ≤ 2 * (mantissa % 2 ^ places)),
          decide (2 * (mantissa % 2 ^ places) ≠ 0
            ∧ 2 * (mantissa % 2 ^ places) ≠ 2 ^ places)⟩ := by
  induction places with
  | zero => simp [HShiftRight.hShiftRight, Nat.repeat, Nat.mod_one]
  | succ places ih =>
      change ((⟨mantissa, false, false⟩ : ExtendedMantissa) >>> places).shiftRightOne = _
      rw [ih, ExtendedMantissa.shiftRightOne]
      have positive := Nat.two_pow_pos places
      have split : mantissa % 2 ^ (places + 1)
          = mantissa % 2 ^ places + 2 ^ places * (mantissa / 2 ^ places % 2) := by
        rw [Nat.pow_succ, Nat.mod_mul]
      have rest := Nat.mod_lt mantissa positive
      rw [split, Nat.pow_succ, ← Nat.div_div_eq_div_mul]
      generalize mantissa % 2 ^ places = low at rest ⊢
      generalize mantissa / 2 ^ places = high
      generalize 2 ^ places = unit at positive rest ⊢
      rcases Nat.mod_two_eq_zero_or_one high with even | odd
      · rw [even, Nat.mul_zero, Nat.add_zero]
        congr 1
        all_goals
          rw [Bool.eq_iff_iff]
          simp
          omega
      · rw [odd, Nat.mul_one]
        congr 1
        all_goals
          rw [Bool.eq_iff_iff]
          simp
          omega

/-- So the mantissa is rounded as the quotient that the shift divides. -/
theorem roundedMantissa_shiftRight (mantissa places : Nat)
    : ((⟨mantissa, false, false⟩ : ExtendedMantissa) >>> places).roundedMantissa
      = (Ratio.mk mantissa (2 ^ places)).roundHalfEven := by
  have positive := Nat.two_pow_pos places
  rw [shiftRight_eq, Ratio.roundHalfEven, Ratio.compareHalf]
  rcases lt_trichotomy (2 * (mantissa % 2 ^ places)) (2 ^ places) with less | same | more
  · rw [Nat.compare_eq_lt.mpr less, decide_eq_false (Nat.not_le.mpr less)]
    cases decide (2 * (mantissa % 2 ^ places) ≠ 0 ∧ 2 * (mantissa % 2 ^ places) ≠ 2 ^ places) <;>
      rfl
  · rw [Nat.compare_eq_eq.mpr same, decide_eq_true same.ge,
      decide_eq_false (fun inside => inside.2 same)]
    rfl
  · have inside
        : 2 * (mantissa % 2 ^ places) ≠ 0 ∧ 2 * (mantissa % 2 ^ places) ≠ 2 ^ places := by omega
    rw [Nat.compare_eq_gt.mpr more, decide_eq_true more.le, decide_eq_true inside]
    rfl

theorem mantissa_shiftRight (mantissa places : Nat)
    : ((⟨mantissa, false, false⟩ : ExtendedMantissa) >>> places).mantissa
      = mantissa / 2 ^ places := by
  rw [shiftRight_eq]

-----------------------------------------------------------------------------------------
-- Patterns
-----------------------------------------------------------------------------------------

/-- The sign of a number for the operations on it. -/
def signOf (negative : Bool) : Sign :=
  if negative then .negative else .positive

/-- A pattern is put together from a sign, an exponent and a mantissa. -/
theorem toNat_packComponents (negative : Bool) (exponent : BitVec 11) (mantissa : BitVec 52)
    : (UnpackedFloat.packComponents .binary64 (signOf negative) exponent mantissa).toNat
      = (if negative then 2 ^ 63 else 0) + (exponent.toNat * 2 ^ 52 + mantissa.toNat) := by
  have inner : (signOf negative).toBitVec.toNat = if negative then 1 else 0 := by
    cases negative <;> rfl
  change ((signOf negative).toBitVec ++ exponent ++ mantissa).toNat = _
  rw [BitVec.toNat_append, BitVec.toNat_append, inner,
    ← Nat.shiftLeft_add_eq_or_of_lt exponent.isLt, ← Nat.shiftLeft_add_eq_or_of_lt mantissa.isLt,
    Nat.shiftLeft_eq, Nat.shiftLeft_eq]
  split <;> omega

/-- A number is told by the sign and the magnitude of its pattern. -/
theorem ofModel_pack {unpacked : UnpackedFloat} {negative : Bool} {magnitude : Nat}
    (small : magnitude < 2 ^ 63)
    (pattern
      : (UnpackedFloat.pack .binary64 unpacked).toNat
        = (if negative then 2 ^ 63 else 0) + magnitude)
    : Float.ofModel (.pack unpacked) = BinaryFloat.ofMagnitude negative magnitude := by
  let packed : Float := Float.ofModel (.pack unpacked)
  have bits : packed.toBits.toNat = (if negative then 2 ^ 63 else 0) + magnitude := pattern
  have sign : BinaryFloat.isNegative packed = negative := by
    change decide (2 ^ 63 ≤ packed.toBits.toNat) = negative
    rw [bits]
    cases negative with
    | true => exact decide_eq_true (Nat.le_add_right _ _)
    | false => exact decide_eq_false (by simpa using small)
  have size : BinaryFloat.magnitude packed = magnitude := by
    change packed.toBits.toNat % 2 ^ 63 = magnitude
    rw [bits]
    split <;> omega
  rw [← BinaryFloat.ofMagnitude_magnitude (Float.ofModel (.pack unpacked))]
  change BinaryFloat.ofMagnitude (BinaryFloat.isNegative packed) (BinaryFloat.magnitude packed) = _
  rw [sign, size]

theorem ofModel_pack_zero (negative : Bool)
    : Float.ofModel (.pack (.zero (signOf negative))) = BinaryFloat.ofMagnitude negative 0 := by
  apply ofModel_pack (by decide)
  exact toNat_packComponents negative 0 0

/-- A significand with a bit in each place is one that begins an octave. -/
theorem log2_add_one_eq_iff {significand : Nat} (some : 0 < significand)
    (inside : significand < 2 ^ 53)
    : significand.log2 + 1 = Format.mantissaBits .binary64 ↔ 2 ^ 52 ≤ significand := by
  have bits : Format.mantissaBits .binary64 = 53 := rfl
  have bound := (Nat.log2_lt some.ne').mpr inside
  rw [bits, ← Nat.le_log2 some.ne']
  omega

/-- A finite number with some octaves and a significand has the magnitude that counts these, or is
infinity if that comes first.
-/
theorem ofModel_pack_finite (negative : Bool) {octaves significand : Nat} (some : 0 < significand)
    (normal : octaves = 0 ∨ 2 ^ 52 ≤ significand) (inside : significand < 2 ^ 53)
    : Float.ofModel (.pack (.finite (signOf negative) significand (-1074 + octaves) some))
      = BinaryFloat.ofMagnitude negative
          (min (octaves * 2 ^ 52 + significand) binary64.infinity) := by
  have infinity : binary64.infinity = (2 ^ 11 - 1) * 2 ^ 52 := rfl
  have biased
      : (-1074 + (octaves : ℤ) + (Format.exponentBias .binary64 : Nat)
          + (Format.binary64.mantissaBitsWithoutImplicit : Nat)).toNat = octaves + 1 := by
    have bias : (Format.exponentBias .binary64 : Nat) = 1023 := rfl
    have bits : Format.binary64.mantissaBitsWithoutImplicit = 52 := rfl
    rw [bias, bits]
    omega
  rw [infinity]
  apply ofModel_pack
  · omega
  · rw [UnpackedFloat.pack, biased]
    dsimp only
    split
    next large =>
      have beyond : 2 ^ 11 ≤ octaves + 1 + 1 := large
      have ones : (-1#11).toNat = 2 ^ 11 - 1 := rfl
      refine (toNat_packComponents negative (-1#11) 0#52).trans ?_
      rw [ones, BitVec.toNat_ofNat]
      omega
    next small =>
      have below : ¬2 ^ 11 ≤ octaves + 1 + 1 := small
      split
      next full =>
        have leading := (log2_add_one_eq_iff some inside).mp full
        refine (toNat_packComponents negative (.ofNat 11 (octaves + 1))
          (.ofNat 52 significand)).trans ?_
        rw [BitVec.toNat_ofNat, BitVec.toNat_ofNat]
        omega
      next partly =>
        have subnormal := mt (log2_add_one_eq_iff some inside).mpr partly
        refine (toNat_packComponents negative 0#11 (.ofNat 52 significand)).trans ?_
        rw [BitVec.toNat_ofNat, BitVec.toNat_ofNat]
        omega

-----------------------------------------------------------------------------------------
-- One rounding
-----------------------------------------------------------------------------------------

theorem targetExponent_eq (mantissa : Nat) (exponent : Int)
    : Format.binary64.targetExponent (Float.Model.totalExponent mantissa exponent)
      = max (mantissa.log2 + exponent - 52) (-1074) := by
  have bits : ((Format.mantissaBits .binary64 : Nat) : ℤ) = 53 := rfl
  have least : Format.binary64.minExponent = -1074 := rfl
  rw [Format.targetExponent, Float.Model.totalExponent, bits, least]
  congr 1
  ring

/-- A mantissa is shifted to the last place that its bits allow. -/
theorem shiftToTargetExponent_eq (mantissa : Nat) (exponent : Int)
    : let places := (max (mantissa.log2 + exponent - 52) (-1074) - exponent).toNat
      UnpackedFloat.shiftToTargetExponent .binary64 mantissa exponent .exact
        = ((⟨mantissa, false, false⟩ : ExtendedMantissa) >>> places, exponent + places) := by
  intro places
  rw [UnpackedFloat.shiftToTargetExponent, targetExponent_eq]
  rfl

theorem ofModel_pack_significand (negative : Bool) {octaves significand : Nat}
    (normal : octaves = 0 ∨ 2 ^ 52 ≤ significand) (inside : significand < 2 ^ 53)
    : Float.ofModel (.pack
          (if zero : significand = 0 then .zero (signOf negative)
            else .finite (signOf negative) significand (-1074 + octaves)
              (Nat.pos_of_ne_zero zero)))
        = BinaryFloat.ofMagnitude negative
            (min (octaves * 2 ^ 52 + significand) binary64.infinity) := by
  split
  next zero =>
    obtain rfl : octaves = 0 := by omega
    rw [zero, Nat.zero_mul, Nat.zero_min, ofModel_pack_zero]
  next some => exact ofModel_pack_finite negative (Nat.pos_of_ne_zero some) normal inside

/-- A significand of up to two octaves is brought into the format without a further rounding. One
that has been rounded up to a power of two begins the next octave.
-/
theorem ofModel_pack_shifted (negative : Bool) {octaves significand : Nat}
    (normal : octaves = 0 ∨ 2 ^ 52 ≤ significand) (inside : significand ≤ 2 ^ 53)
    : let shifted :=
        UnpackedFloat.shiftToTargetExponent .binary64 significand (-1074 + octaves) .exact
      Float.ofModel (.pack
          (if zero : shifted.1.mantissa = 0 then .zero (signOf negative)
            else .finite (signOf negative) shifted.1.mantissa shifted.2
              (Nat.pos_of_ne_zero zero)))
        = BinaryFloat.ofMagnitude negative
            (min (octaves * 2 ^ 52 + significand) binary64.infinity) := by
  intro shifted
  have known : shifted = _ := shiftToTargetExponent_eq significand (-1074 + octaves)
  rw [known]
  dsimp only
  rw [mantissa_shiftRight]
  rcases Nat.lt_or_eq_of_le inside with below | carried
  · have bits : significand.log2 ≤ 52 := by
      rcases Nat.eq_zero_or_pos significand with rfl | some
      · exact Nat.zero_le 52
      · exact Nat.le_of_lt_succ ((Nat.log2_lt some.ne').mpr below)
    have unmoved
        : (max (significand.log2 + (-1074 + (octaves : ℤ)) - 52) (-1074)
            - (-1074 + octaves)).toNat = 0 := by omega
    rw [unmoved, Nat.pow_zero, Nat.div_one, Nat.cast_zero, add_zero]
    exact ofModel_pack_significand negative normal below
  · have bits : significand.log2 = 53 := by rw [carried, Nat.log2_two_pow]
    have moved
        : (max (significand.log2 + (-1074 + (octaves : ℤ)) - 52) (-1074)
            - (-1074 + octaves)).toNat = 1 := by omega
    have begins : significand / 2 ^ 1 = 2 ^ 52 := by omega
    have next : octaves * 2 ^ 52 + significand = (octaves + 1) * 2 ^ 52 + 2 ^ 52 := by omega
    rw [moved, begins, next, add_assoc, ← Nat.cast_add]
    exact ofModel_pack_significand negative (.inr le_rfl) (by decide)

theorem num_scaled_pos {mantissa : Nat} (some : 0 < mantissa) (exponent : Int)
    : 0 < (Ratio.scaled mantissa 2 exponent).num := by
  apply Ratio.num_pos_of_toRat
  rw [Ratio.toRat_scaled]
  positivity

/-- The last place that the bits of a mantissa allow is the one that its quotient is rounded at. -/
theorem lastPlace_scaled {mantissa : Nat} (some : 0 < mantissa) (exponent : Int)
    : binary64.lastPlace (.scaled mantissa 2 exponent)
      = max (mantissa.log2 + exponent - 52) (-1074) := by
  rw [BinaryFormat.lastPlace,
    Ratio.floorLog2_eq (num_scaled_pos some exponent)
      (Ratio.den_scaled_pos Nat.two_pos mantissa exponent),
    Ratio.toRat_scaled, Nat.cast_ofNat, Ratio.log_mul_zpow some]
  rfl

/-- A shift up to a place rounds as the quotient does when it is counted there. -/
theorem roundedMantissa_scaled (mantissa : Nat) {exponent place : Int} (finer : exponent ≤ place)
    : ((⟨mantissa, false, false⟩ : ExtendedMantissa)
          >>> (place - exponent).toNat).roundedMantissa
      = ((Ratio.scaled mantissa 2 exponent).inUnits 2 place).roundHalfEven := by
  obtain ⟨places, rfl⟩ := Int.le.dest finer
  have den := Ratio.den_scaled_pos Nat.two_pos mantissa exponent
  rw [add_sub_cancel_left, Int.toNat_natCast, roundedMantissa_shiftRight]
  apply Ratio.roundHalfEven_eq_of_toRat (Nat.two_pow_pos places)
  · exact Ratio.den_inUnits_pos Nat.two_pos _ den
  · rw [Ratio.toRat_inUnits, Ratio.toRat_scaled, Ratio.toRat, Nat.cast_ofNat,
      zpow_add₀ two_ne_zero, zpow_natCast]
    push_cast
    field_simp

/-- Rounding a mantissa that is fine enough gives the nearest number. The first shift rounds at the
last place, where there are at most two octaves, and the second only carries.
-/
theorem ofModel_pack_roundWithAccuracy (negative : Bool) {mantissa : Nat} {exponent : Int}
    (some : 0 < mantissa) (fine : exponent ≤ max (mantissa.log2 + exponent - 52) (-1074))
    : Float.ofModel (.pack
          (.roundWithAccuracy .binary64 (signOf negative) mantissa exponent .exact))
      = BinaryFloat.ofRatio negative (.scaled mantissa 2 exponent) := by
  have num := num_scaled_pos some exponent
  have den := Ratio.den_scaled_pos Nat.two_pos mantissa exponent
  obtain ⟨octaves, known, nearest⟩ := binary64.exists_octaves_nearest num
  obtain ⟨normal, inside⟩ := binary64.roundHalfEven_inUnits_bounds num den
  have leading := normal.imp_left (by omega : _ → octaves = 0)
  have first := shiftToTargetExponent_eq mantissa exponent
  dsimp only at first
  rw [← lastPlace_scaled some] at first fine
  rw [Int.toNat_of_nonneg (Int.sub_nonneg.mpr fine), add_sub_cancel] at first
  change _ = BinaryFloat.ofMagnitude negative (binary64.nearest (.scaled mantissa 2 exponent))
  rw [nearest, UnpackedFloat.roundWithAccuracy, first]
  dsimp only
  rw [roundedMantissa_scaled mantissa fine, ← known]
  rw [← known] at leading inside
  exact ofModel_pack_shifted negative leading inside

-----------------------------------------------------------------------------------------
-- Parts of patterns
-----------------------------------------------------------------------------------------

theorem toNat_unpackExponent (x : Float)
    : (@UnpackedFloat.unpackExponent .binary64 x.toBits.toBitVec).toNat
      = BinaryFloat.magnitude x / 2 ^ 52 := by
  change (x.toBits.toNat >>> 52) % 2 ^ 11 = x.toBits.toNat % 2 ^ 63 / 2 ^ 52
  rw [Nat.shiftRight_eq_div_pow]
  omega

theorem toNat_unpackMantissa (x : Float)
    : (@UnpackedFloat.unpackMantissa .binary64 x.toBits.toBitVec).toNat
      = BinaryFloat.magnitude x % 2 ^ 52 := by
  change (x.toBits.toNat >>> 0) % 2 ^ 52 = x.toBits.toNat % 2 ^ 63 % 2 ^ 52
  rw [Nat.shiftRight_zero]
  omega

theorem ofBitVec_unpackSign (x : Float)
    : Sign.ofBitVec (@UnpackedFloat.unpackSign .binary64 x.toBits.toBitVec)
      = signOf (BinaryFloat.isNegative x) := by
  have bit
      : (@UnpackedFloat.unpackSign .binary64 x.toBits.toBitVec).toNat
        = x.toBits.toNat / 2 ^ 63 := by
    change (x.toBits.toNat >>> 63) % 2 ^ 1 = _
    rw [Nat.shiftRight_eq_div_pow]
    have bound := x.toBits.toNat_lt
    omega
  have set
      : BinaryFloat.isNegative x = true
        ↔ ¬@UnpackedFloat.unpackSign .binary64 x.toBits.toBitVec = 0#1 := by
    change decide (2 ^ 63 ≤ x.toBits.toNat) = true ↔ _
    rw [decide_eq_true_iff, ← BitVec.toNat_inj, bit, BitVec.toNat_ofNat]
    omega
  rw [Sign.ofBitVec, signOf]
  simp only [set, ite_not]

theorem significand_binary64 (magnitude : Nat)
    : binary64.significand magnitude
      = if magnitude / 2 ^ 52 = 0 then magnitude else magnitude % 2 ^ 52 + 2 ^ 52 :=
  rfl

theorem exponent_binary64 (magnitude : Nat)
    : binary64.exponent magnitude = -1074 + (magnitude / 2 ^ 52 - 1 : Nat) :=
  rfl

/-- The parts of a finite number are those of its magnitude. -/
theorem unpack_eq {x : Float} (finite : BinaryFloat.magnitude x < binary64.infinity)
    : x.toModel.unpack
      = if zero : BinaryFloat.magnitude x = 0 then .zero (signOf (BinaryFloat.isNegative x))
        else .finite (signOf (BinaryFloat.isNegative x))
          (binary64.significand (BinaryFloat.magnitude x))
          (binary64.exponent (BinaryFloat.magnitude x))
          (binary64.significand_pos (Nat.pos_of_ne_zero zero)) := by
  have field := toNat_unpackExponent x
  have rest := toNat_unpackMantissa x
  change UnpackedFloat.unpack .binary64 x.toBits.toBitVec = _
  rw [UnpackedFloat.unpack]
  dsimp only
  rw [ofBitVec_unpackSign]
  have below : BinaryFloat.magnitude x < (2 ^ 11 - 1) * 2 ^ 52 := finite
  have bias : ((Format.exponentBias .binary64 : Nat) : ℤ) = 1023 := rfl
  generalize BinaryFloat.magnitude x = magnitude at field rest below finite ⊢
  simp only [← BitVec.toNat_inj, field, rest]
  split
  next full =>
    have ones : (-1#11).toNat = 2 ^ 11 - 1 := rfl
    have same : magnitude / 2 ^ 52 = 2 ^ 11 - 1 := full
    omega
  next =>
    split
    next first =>
      have low : magnitude / 2 ^ 52 = 0 := first
      split
      next none =>
        have same : magnitude % 2 ^ 52 = 0 := none
        rw [dif_pos (by omega)]
      next some =>
        have nonzero : ¬magnitude % 2 ^ 52 = 0 := some
        rw [dif_neg (by omega)]
        congr 1
        · rw [significand_binary64, if_pos low]
          omega
        · rw [exponent_binary64, bias]
          omega
    next later =>
      have normal : ¬magnitude / 2 ^ 52 = 0 := later
      rw [dif_neg (by omega)]
      congr 1
      · rw [significand_binary64, if_neg normal, BitVec.toNat_append,
          ← Nat.shiftLeft_add_eq_or_of_lt (BitVec.isLt _), Nat.shiftLeft_eq, rest, Nat.add_comm]
        rfl
      · rw [exponent_binary64, bias]
        omega

end PenPlotter
