import PenPlotter.Proofs.Number.Sums

/-!
There are two zeros, which compare equal. Floating-point numbers are the same number when they
differ in the sign of zero at most. Sums, products and quotients keep this, whatever stands on
their other side, for at most the sign of a zero can depend on that of another one. And zero adds
nothing to a number, which keeps its bits unless it is the negative zero.
-/

namespace PenPlotter.BinaryFloat

open Float.Model (UnpackedFloat)
open Float.Model.UnpackedFloat (Sign)
open BinaryFormat (binary64)

variable {x y z : Float}

-----------------------------------------------------------------------------------------
-- The same number
-----------------------------------------------------------------------------------------

/-- Two floating-point numbers are the same number if they have the same bits or compare equal, as
the two zeros do.
-/
def SameNumber (x y : Float) : Prop :=
  x = y ∨ (x == y) = true

theorem magnitude_eq_zero_iff (x : Float) : magnitude x = 0 ↔ x = 0 ∨ x = -0 := by
  constructor
  · intro zero
    rw [← ofMagnitude_magnitude x, zero]
    cases isNegative x with
    | false => exact Or.inl (by decide)
    | true => exact Or.inr (by decide)
  · rintro (rfl | rfl) <;> decide

theorem sameNumber_iff : SameNumber x y ↔ x = y ∨ (magnitude x = 0 ∧ magnitude y = 0) := by
  rw [SameNumber, Float.beq_iff_ne_nan_and_eq, magnitude_eq_zero_iff, magnitude_eq_zero_iff]
  constructor
  · rintro (same | ⟨-, -, same | ⟨rfl, rfl⟩ | ⟨rfl, rfl⟩⟩)
    · exact Or.inl same
    · exact Or.inl same
    · exact Or.inr ⟨Or.inl rfl, Or.inr rfl⟩
    · exact Or.inr ⟨Or.inr rfl, Or.inl rfl⟩
  · rintro (same | ⟨rfl | rfl, rfl | rfl⟩)
    · exact Or.inl same
    · exact Or.inl rfl
    · exact Or.inr (by decide)
    · exact Or.inr (by decide)
    · exact Or.inl rfl

theorem toRat_eq_zero_iff (x : Float) : toRat x = 0 ↔ magnitude x = 0 := by
  refine ⟨fun zero => ?_, toRat_of_zero⟩
  by_contra some
  have positive := binary64.toRat_value_pos (Nat.pos_of_ne_zero some)
  have size := congrArg abs zero
  rw [toRat, abs_signed positive.le, abs_zero] at size
  exact positive.ne' size

/-- Patterns stand for the same rational number if they are the same number: apart from zero, the
rational number tells the magnitude by its size and then the sign.
-/
theorem sameNumber_iff_toRat : SameNumber x y ↔ toRat x = toRat y := by
  rw [sameNumber_iff]
  constructor
  · rintro (rfl | ⟨zero, zeroToo⟩)
    · rfl
    · rw [toRat_of_zero zero, toRat_of_zero zeroToo]
  · intro same
    by_cases zero : magnitude x = 0
    · rw [toRat_of_zero zero, eq_comm, toRat_eq_zero_iff] at same
      exact Or.inr ⟨zero, same⟩
    · have positive := binary64.toRat_value_pos (Nat.pos_of_ne_zero zero)
      have size : magnitude x = magnitude y := by
        have sizes := congrArg abs same
        rw [toRat, toRat, abs_signed (Ratio.toRat_nonneg _), abs_signed (Ratio.toRat_nonneg _)]
          at sizes
        exact binary64.toRat_value_strictMono.injective sizes
      have sign : isNegative x = isNegative y := by
        rw [toRat, toRat, ← size] at same
        cases negative : isNegative x <;> cases other : isNegative y <;>
          simp only [negative, other, signed, if_true, if_false, Bool.false_eq_true] at same ⊢ <;>
          linarith
      left
      rw [← ofMagnitude_magnitude x, ← ofMagnitude_magnitude y, sign, size]

theorem SameNumber.trans (same : SameNumber x y) (next : SameNumber y z) : SameNumber x z := by
  rw [sameNumber_iff_toRat] at *
  exact same.trans next

-----------------------------------------------------------------------------------------
-- Zeros in operations
-----------------------------------------------------------------------------------------

theorem unpack_of_zero (zero : magnitude x = 0)
    : x.toModel.unpack = .zero (signOf (isNegative x)) := by
  rw [unpack_eq (zero.trans_lt (by decide)), dif_pos zero]

theorem sameNumber_zeros (s t : Sign)
    : SameNumber (Float.ofModel (.pack (.zero s))) (Float.ofModel (.pack (.zero t))) := by
  cases s <;> cases t
  · exact Or.inl rfl
  · exact Or.inr (by decide)
  · exact Or.inr (by decide)
  · exact Or.inl rfl

/-- An operation whose result does not depend on the sign of a zero, unless it is a zero. -/
def IgnoresSignOfZero (operation : UnpackedFloat → UnpackedFloat) : Prop :=
  ∀ s t,
    operation (.zero s) = operation (.zero t)
    ∨ ∃ a b, operation (.zero s) = .zero a ∧ operation (.zero t) = .zero b

theorem IgnoresSignOfZero.sameNumber {operation : UnpackedFloat → UnpackedFloat}
    (ignores : IgnoresSignOfZero operation) (same : SameNumber x y)
    : SameNumber (Float.ofModel (.pack (operation x.toModel.unpack)))
        (Float.ofModel (.pack (operation y.toModel.unpack))) := by
  rcases sameNumber_iff.mp same with rfl | ⟨zero, zeroToo⟩
  · exact Or.inl rfl
  · rw [unpack_of_zero zero, unpack_of_zero zeroToo]
    rcases ignores (signOf (isNegative x)) (signOf (isNegative y)) with
      equal | ⟨a, b, left, right⟩
    · rw [equal]
      exact Or.inl rfl
    · rw [left, right]
      exact sameNumber_zeros a b

theorem SameNumber.add_left (x : Float) (same : SameNumber y z)
    : SameNumber (x + y) (x + z) := by
  have ignores : IgnoresSignOfZero (.add .binary64 x.toModel.unpack) := by
    intro s t
    cases x.toModel.unpack with
    | zero u => cases s <;> cases t <;> cases u <;> simp [UnpackedFloat.add]
    | notANumber | infinity | finite => exact Or.inl rfl
  exact ignores.sameNumber same

theorem SameNumber.add_right (same : SameNumber x y) (z : Float)
    : SameNumber (x + z) (y + z) := by
  have ignores : IgnoresSignOfZero (.add .binary64 · z.toModel.unpack) := by
    intro s t
    cases z.toModel.unpack with
    | zero u => cases s <;> cases t <;> cases u <;> simp [UnpackedFloat.add]
    | notANumber | infinity | finite => exact Or.inl rfl
  exact ignores.sameNumber same

theorem SameNumber.add {w : Float} (same : SameNumber x y) (too : SameNumber z w)
    : SameNumber (x + z) (y + w) :=
  (same.add_right z).trans (too.add_left y)

theorem SameNumber.mul_right (same : SameNumber x y) (z : Float)
    : SameNumber (x * z) (y * z) := by
  have ignores : IgnoresSignOfZero (.mul .binary64 · z.toModel.unpack) := by
    intro s t
    cases z.toModel.unpack with
    | notANumber | infinity => exact Or.inl rfl
    | zero | finite => exact Or.inr ⟨_, _, rfl, rfl⟩
  exact ignores.sameNumber same

theorem SameNumber.div_right (same : SameNumber x y) (z : Float)
    : SameNumber (x / z) (y / z) := by
  have ignores : IgnoresSignOfZero (.div .binary64 · z.toModel.unpack) := by
    intro s t
    cases z.toModel.unpack with
    | notANumber | zero => exact Or.inl rfl
    | infinity | finite => exact Or.inr ⟨_, _, rfl, rfl⟩
  exact ignores.sameNumber same

theorem magnitude_half_of_zero (zero : magnitude x = 0) : magnitude (x / 2) = 0 := by
  rcases (magnitude_eq_zero_iff x).mp zero with rfl | rfl <;> decide

/-- Zero adds nothing, on either side, to a number other than the negative zero. -/
theorem add_of_zero (notMinus : x ≠ -0) (zero : magnitude y = 0) : x + y = x ∧ y + x = x := by
  have whole : Float.ofModel (.pack x.toModel.unpack) = x := Float.ofBits_toBits x
  have kept
      : UnpackedFloat.add .binary64 x.toModel.unpack y.toModel.unpack = x.toModel.unpack
        ∧ UnpackedFloat.add .binary64 y.toModel.unpack x.toModel.unpack
          = x.toModel.unpack := by
    rw [unpack_of_zero zero]
    cases known : x.toModel.unpack with
    | zero sign =>
        cases sign with
        | negative =>
            rw [known] at whole
            exact absurd (whole.symm.trans (by decide)) notMinus
        | positive => cases signOf (isNegative y) <;> exact ⟨rfl, rfl⟩
    | notANumber | infinity | finite => exact ⟨rfl, rfl⟩
  constructor
  · change Float.ofModel (.pack (.add .binary64 x.toModel.unpack y.toModel.unpack)) = x
    rw [kept.1, whole]
  · change Float.ofModel (.pack (.add .binary64 y.toModel.unpack x.toModel.unpack)) = x
    rw [kept.2, whole]

/-- So whichever zero is added to it, the sum has the same bits. -/
theorem add_eq_of_sameNumber (notMinus : x ≠ -0) (same : SameNumber y z) : x + y = x + z := by
  rcases sameNumber_iff.mp same with rfl | ⟨zero, zeroToo⟩
  · rfl
  · rw [(add_of_zero notMinus zero).1, (add_of_zero notMinus zeroToo).1]

/-- An exact sum is undone to the bits of the number that stood there first, unless this was the
negative zero. By cases on whether it was the positive one, which adds nothing.
-/
theorem AddsExactly.undone_eq (adds : AddsExactly x y) (notMinus : x ≠ -0) : x + y + -y = x := by
  rcases sameNumber_iff.mp (sameNumber_iff_toRat.mpr adds.undone.2) with same | ⟨-, zero⟩
  · exact same
  · obtain rfl := ((magnitude_eq_zero_iff x).mp zero).resolve_right notMinus
    by_cases minus : y = -0
    · rw [minus]
      decide
    · rw [(add_of_zero minus zero).2, add_neg_self adds.right]

end PenPlotter.BinaryFloat
