import PenPlotter.Proofs.Number.Arithmetic
import PenPlotter.Proofs.Number.Distinct

/-!
Opposites and sums. The opposite of a number has the other sign and is otherwise the number, so
nothing is rounded. A sum is the exact one, rounded once. So a sum that needs no rounding is undone
by adding the opposite, again without rounding.
-/

namespace PenPlotter.BinaryFloat

open Float.Model (UnpackedFloat)
open Float.Model.UnpackedFloat (Sign)
open BinaryFormat (binary64)

variable {x y : Float}

-----------------------------------------------------------------------------------------
-- Opposites
-----------------------------------------------------------------------------------------

theorem magnitude_lt (finite : x.isFinite = true) : magnitude x < binary64.infinity := by
  rw [← isFinite_eq] at finite
  exact of_decide_eq_true finite

theorem isNaN_of_isFinite (finite : x.isFinite = true) : x.isNaN = false := by
  rw [← isNaN_eq]
  exact decide_eq_false (Nat.not_lt.mpr (magnitude_lt finite).le)

/-- The opposite of a number has its magnitude and the other sign. By cases on whether the number
is finite, and then on whether it is zero.
-/
theorem neg_eq_ofMagnitude (number : x.isNaN = false)
    : -x = ofMagnitude (!isNegative x) (magnitude x) := by
  cases finite : x.isFinite with
  | true =>
      have below := magnitude_lt finite
      change Float.ofModel (.pack x.toModel.unpack.neg) = _
      rw [unpack_eq below]
      split
      next zero => rw [zero, UnpackedFloat.neg, neg_signOf, ofModel_pack_zero]
      next some =>
        rw [UnpackedFloat.neg, neg_signOf]
        exact ofModel_pack_parts _ (Nat.pos_of_ne_zero some) below
  | false =>
      rw [eq_ofMagnitude_of_infinite number finite]
      cases isNegative x <;> decide

/-- Below zero are the numbers with a negative sign, but for the negative zero. -/
theorem lt_zero_iff (x : Float)
    : x < 0 ↔ x.isNaN = false ∧ isNegative x = true ∧ magnitude x ≠ 0 := by
  have compared : x < 0 ↔ UnpackedFloat.lt x.toModel.unpack (.zero .positive) = true :=
    decide_eq_true_iff
  rw [compared]
  cases number : x.isNaN with
  | true =>
      have none : x.toModel.unpack = .notANumber := UnpackedFloat.isNaN_iff.mp number
      rw [none]
      exact iff_of_false Bool.false_ne_true fun apart => Bool.noConfusion apart.1
  | false =>
      cases finite : x.isFinite with
      | true =>
          rw [unpack_eq (magnitude_lt finite)]
          split
          next zero => simp [zero, UnpackedFloat.lt, UnpackedFloat.compare]
          next some =>
            cases isNegative x <;> simp [some, signOf, UnpackedFloat.lt, UnpackedFloat.compare]
      | false =>
          rw [eq_ofMagnitude_of_infinite number finite]
          cases isNegative x <;> decide

theorem not_lt_zero_of_zero (zero : magnitude x = 0) : ¬x < 0 :=
  fun below => ((lt_zero_iff x).mp below).2.2 zero

/-- The opposite of a number below zero is not below zero, since its sign is positive. -/
theorem not_neg_lt_zero (below : x < 0) : ¬-x < 0 := by
  obtain ⟨number, negative, -⟩ := (lt_zero_iff x).mp below
  have notAbove : magnitude x ≤ binary64.infinity := by
    rw [← isNaN_eq] at number
    exact Nat.not_lt.mp (of_decide_eq_false number)
  intro again
  obtain ⟨-, sign, -⟩ := (lt_zero_iff (-x)).mp again
  rw [neg_eq_ofMagnitude number, isNegative_ofMagnitude _ notAbove, negative] at sign
  exact Bool.noConfusion sign

section

variable (finite : x.isFinite = true)

include finite

theorem magnitude_neg : magnitude (-x) = magnitude x := by
  rw [neg_eq_ofMagnitude (isNaN_of_isFinite finite)]
  exact magnitude_ofMagnitude _ (magnitude_lt finite).le

theorem isNegative_neg : isNegative (-x) = !isNegative x := by
  rw [neg_eq_ofMagnitude (isNaN_of_isFinite finite)]
  exact isNegative_ofMagnitude _ (magnitude_lt finite).le

theorem isFinite_neg : (-x).isFinite = true := by
  rw [← isFinite_eq, isFinite, magnitude_neg finite]
  exact decide_eq_true (magnitude_lt finite)

theorem toRat_neg : toRat (-x) = -toRat x := by
  rw [toRat, toRat, neg_signed, isNegative_neg finite, magnitude_neg finite]

theorem neg_neg_eq : - -x = x := by
  rw [neg_eq_ofMagnitude (isNaN_of_isFinite (isFinite_neg finite)), isNegative_neg finite,
    magnitude_neg finite, Bool.not_not, ofMagnitude_magnitude]

/-- The parts of an opposite are the parts of the number, with the other sign. -/
theorem unpack_neg : (-x).toModel.unpack = x.toModel.unpack.neg := by
  rw [unpack_eq (magnitude_lt finite), unpack_eq (magnitude_lt (isFinite_neg finite))]
  simp only [magnitude_neg finite, isNegative_neg finite, ← neg_signOf]
  split <;> rfl

/-- A finite number is below zero if it stands for a rational number below zero. -/
theorem lt_zero_iff_toRat : x < 0 ↔ toRat x < 0 := by
  rw [lt_zero_iff, isNaN_of_isFinite finite]
  by_cases zero : magnitude x = 0
  · simp [zero, toRat_of_zero zero]
  · have positive := binary64.toRat_value_pos (Nat.pos_of_ne_zero zero)
    rw [toRat]
    cases isNegative x with
    | true => simpa [zero, signed] using positive
    | false => simpa [signed] using positive.le

/-- Of a number other than zero and its opposite one is below zero. -/
theorem neg_lt_zero_of_not_lt (some : magnitude x ≠ 0) (notBelow : ¬x < 0) : -x < 0 := by
  have number := isNaN_of_isFinite finite
  have positive : isNegative x = false := by
    by_contra negative
    exact notBelow ((lt_zero_iff x).mpr ⟨number, Bool.of_not_eq_false negative, some⟩)
  refine (lt_zero_iff (-x)).mpr ⟨isNaN_of_isFinite (isFinite_neg finite), ?_, ?_⟩
  · rw [isNegative_neg finite, positive, Bool.not_false]
  · rwa [magnitude_neg finite]

end

-----------------------------------------------------------------------------------------
-- Sums
-----------------------------------------------------------------------------------------

theorem apply_neg (sign : Sign) (mantissa : Int)
    : (-sign).apply mantissa = -sign.apply mantissa := by
  cases sign with
  | negative => exact (Int.neg_neg mantissa).symm
  | positive => rfl

/-- To add is to take away the opposite. By cases on the kinds of the two numbers. -/
theorem unpacked_add_eq (u v : UnpackedFloat)
    : UnpackedFloat.add .binary64 u v = UnpackedFloat.sub .binary64 u v.neg := by
  have twice (sign : Sign) : - -sign = sign := by cases sign <;> rfl
  cases u <;> cases v <;>
    simp only [UnpackedFloat.add, UnpackedFloat.sub, UnpackedFloat.neg, twice, apply_neg,
      Int.sub_neg]

/-- The sum of finite numbers is what their exact sum is rounded to, as it is a difference. -/
theorem isRounding_add (left : x.isFinite = true) (right : y.isFinite = true)
    : IsRounding (x + y) (toRat x + toRat y) := by
  have sum : x + y = x - -y := by
    change Float.ofModel (.pack (.add .binary64 x.toModel.unpack y.toModel.unpack))
      = Float.ofModel (.pack (.sub .binary64 x.toModel.unpack (-y).toModel.unpack))
    rw [unpack_neg right, unpacked_add_eq]
  have exact : toRat x + toRat y = toRat x - toRat (-y) := by
    rw [toRat_neg right, sub_neg_eq_add]
  rw [sum, exact]
  apply isRounding_sub
  · rwa [isFinite_eq]
  · rw [isFinite_eq]
    exact isFinite_neg right

/-- A number and its opposite cancel to the positive zero. -/
theorem add_neg_self (finite : x.isFinite = true) : x + -x = 0 := by
  change Float.ofModel (.pack (.add .binary64 x.toModel.unpack (-x).toModel.unpack)) = 0
  rw [unpack_neg finite, unpack_eq (magnitude_lt finite)]
  split
  next zero => cases isNegative x <;> decide
  next some =>
    rw [UnpackedFloat.neg, UnpackedFloat.add]
    dsimp only
    rw [apply_neg, Int.add_right_neg]
    exact (ofModel_pack_zero false).trans (by decide)

/-- What a finite number is rounded to is the number itself, up to the sign of zero. -/
theorem IsRounding.toRat_eq (rounding : IsRounding x (toRat y)) (finite : y.isFinite = true)
    : x.isFinite = true ∧ toRat x = toRat y := by
  obtain ⟨negative, r, den, rfl, exact⟩ := rounding
  have below := magnitude_lt finite
  have size : r.toRat = (binary64.value (magnitude y)).toRat := by
    have sizes := congrArg abs exact
    rw [toRat, abs_signed (Ratio.toRat_nonneg _), abs_signed (Ratio.toRat_nonneg _)] at sizes
    exact sizes.symm
  have nearest : (ofRatio negative r : Float) = ofMagnitude negative (magnitude y) :=
    congrArg (ofMagnitude negative) (binary64.nearest_of_toRat den below size)
  have kept : magnitude (ofMagnitude negative (magnitude y) : Float) = magnitude y :=
    magnitude_ofMagnitude negative below.le
  have sign : isNegative (ofMagnitude negative (magnitude y) : Float) = negative :=
    isNegative_ofMagnitude negative below.le
  constructor
  · rw [← isFinite_eq, nearest, isFinite, kept]
    exact decide_eq_true below
  · rw [nearest, toRat, kept, sign, ← size, exact]

/-- Two finite numbers with a finite sum that needs no rounding. -/
structure AddsExactly (x y : Float) : Prop where
  left : x.isFinite = true
  right : y.isFinite = true
  sum : (x + y).isFinite = true
  exact : toRat (x + y) = toRat x + toRat y

/-- An exact sum is undone by the opposite. What is rounded then is the number that stood there
first.
-/
theorem AddsExactly.undone (adds : AddsExactly x y)
    : AddsExactly (x + y) (-y) ∧ toRat (x + y + -y) = toRat x := by
  have opposite := isFinite_neg adds.right
  have first : toRat (x + y) + toRat (-y) = toRat x := by
    rw [adds.exact, toRat_neg adds.right, add_neg_cancel_right]
  have rounding := isRounding_add adds.sum opposite
  rw [first] at rounding
  obtain ⟨finite, same⟩ := rounding.toRat_eq adds.left
  exact ⟨⟨adds.sum, opposite, finite, same.trans first.symm⟩, same⟩

end PenPlotter.BinaryFloat
