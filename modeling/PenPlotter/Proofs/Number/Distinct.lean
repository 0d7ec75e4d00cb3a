import PenPlotter.Proofs.Number.Packing
import PenPlotter.Proofs.Text.Parts

/-!
The texts of two numbers differ, down to the sign of zero, as long as both are numbers. Such a text
holds digits, a minus and a point at most, or is that of an infinity.
-/

namespace PenPlotter.BinaryFloat

open Float.Model (UnpackedFloat)

variable {x y : Float}

/-- The patterns that are no number are those beyond both infinities. -/
theorem isNaN_eq (x : Float) : BinaryFloat.isNaN x = x.isNaN := by
  have field := toNat_unpackExponent x
  have rest := toNat_unpackMantissa x
  have bound : magnitude x < 2 ^ 63 := Nat.mod_lt _ (by decide)
  rw [Bool.eq_iff_iff, isNaN, decide_eq_true_iff]
  change (2 ^ 11 - 1) * 2 ^ 52 < magnitude x
    ↔ (UnpackedFloat.unpack .binary64 x.toBits.toBitVec).isNaN = true
  generalize magnitude x = magnitude at field rest bound ⊢
  rw [UnpackedFloat.unpack]
  dsimp only
  simp only [← BitVec.toNat_inj, field, rest]
  split
  next full =>
    have ones : magnitude / 2 ^ 52 = 2 ^ 11 - 1 := full
    split
    next none =>
      have zero : magnitude % 2 ^ 52 = 0 := none
      exact iff_of_false (by omega) Bool.false_ne_true
    next some =>
      have nonzero : ¬magnitude % 2 ^ 52 = 0 := some
      exact iff_of_true (by omega) rfl
  next partly =>
    have below : ¬magnitude / 2 ^ 52 = 2 ^ 11 - 1 := partly
    refine iff_of_false (by omega) ?_
    split
    · split <;> exact Bool.false_ne_true
    · exact Bool.false_ne_true

-----------------------------------------------------------------------------------------
-- The characters of texts
-----------------------------------------------------------------------------------------

theorem toList_text_of_infinite (number : x.isNaN = false) (infinite : x.isFinite = false)
    : (text x).toList = Numeral.signed (isNegative x) ['i', 'n', 'f'] := by
  rw [← isNaN_eq] at number
  rw [← isFinite_eq] at infinite
  rw [text, number, if_neg Bool.false_ne_true, String.toList_ofList, magnitudeChars, infinite,
    if_neg Bool.false_ne_true]
  rfl

theorem isDigit_or_mark_of_finite (finite : x.isFinite = true)
    : ∀ c ∈ (text x).toList, c.isDigit = true ∨ c = '-' ∨ c = '.' := by
  intro c member
  rw [toList_text (by rwa [isFinite_eq])] at member
  rcases Numeral.mem_signed member with minus | written
  · exact Or.inr (Or.inl minus)
  · exact ((Decimal.shows_positional _).isDigit_or_point c written).imp_right Or.inr

/-- A character that is in the text of no number. -/
structure IsForeign (c : Char) : Prop where
  letter : c.isDigit = false
  mark : c ∉ ['-', '.', 'i', 'n', 'f']

/-- By cases on whether the number is finite. -/
theorem not_mem_text (number : x.isNaN = false) {c : Char} (foreign : IsForeign c)
    : c ∉ (text x).toList := by
  intro member
  have marks := foreign.mark
  simp only [List.mem_cons, List.not_mem_nil, or_false, not_or] at marks
  cases finite : x.isFinite with
  | true =>
      rcases isDigit_or_mark_of_finite finite c member with digit | minus | point
      · rw [foreign.letter] at digit
        cases digit
      · exact marks.1 minus
      · exact marks.2.1 point
  | false =>
      rw [toList_text_of_infinite number finite] at member
      rcases Numeral.mem_signed member with minus | letter
      · exact marks.1 minus
      · exact foreign.mark (List.mem_cons_of_mem _ (List.mem_cons_of_mem _ letter))

-----------------------------------------------------------------------------------------
-- Equal texts
-----------------------------------------------------------------------------------------

/-- Only the texts of infinities hold letters. -/
theorem text_ne_of_finite (finite : x.isFinite = true) (number : y.isNaN = false)
    (infinite : y.isFinite = false)
    : text x ≠ text y := by
  intro same
  have letter : 'i' ∈ (text y).toList := by
    rw [toList_text_of_infinite number infinite]
    cases isNegative y <;> decide
  rw [← same] at letter
  rcases isDigit_or_mark_of_finite finite 'i' letter with digit | minus | point
  · cases digit
  · cases minus
  · cases point

/-- An infinity is told by its sign. -/
theorem eq_ofMagnitude_of_infinite (number : x.isNaN = false) (infinite : x.isFinite = false)
    : x = ofMagnitude (isNegative x) (format Float).infinity := by
  rw [← isNaN_eq] at number
  rw [← isFinite_eq] at infinite
  have notAbove := of_decide_eq_false number
  have notBelow := of_decide_eq_false infinite
  have size : magnitude x = (format Float).infinity := by omega
  rw [← size, ofMagnitude_magnitude]

/-- Equal texts are of equal numbers, bit for bit. By cases on which of the two are finite: finite
numbers are read back, and infinities are told apart by their sign.
-/
theorem eq_of_text_eq (number : x.isNaN = false) (too : y.isNaN = false)
    (same : text x = text y)
    : x = y := by
  cases finite : x.isFinite <;> cases other : y.isFinite
  · have signs := congrArg String.toList same
    rw [toList_text_of_infinite number finite, toList_text_of_infinite too other] at signs
    have sign : isNegative x = isNegative y := by
      revert signs
      cases isNegative x <;> cases isNegative y <;> decide
    rw [eq_ofMagnitude_of_infinite number finite, sign, ← eq_ofMagnitude_of_infinite too other]
  · exact absurd same.symm (text_ne_of_finite other number finite)
  · exact absurd same (text_ne_of_finite finite too other)
  · have read := number?_text finite
    rw [same, number?_text other] at read
    exact (Option.some.inj read).symm

/-- A number ends before a character that no number holds. -/
theorem text_append_inj (number : x.isNaN = false) (too : y.isNaN = false) {c : Char}
    (foreign : IsForeign c) {right more : String} (starts : right.toList.head? = some c)
    (startsToo : more.toList.head? = some c)
    : text x ++ right = text y ++ more ↔ x = y ∧ right = more := by
  rw [Text.append_inj_of_absent (not_mem_text number foreign) starts (not_mem_text too foreign)
    startsToo]
  exact and_congr_left' ⟨eq_of_text_eq number too, congrArg text⟩

end PenPlotter.BinaryFloat
