import PenPlotter.Proofs.Number.Nearest
import PenPlotter.Proofs.Number.Reading

/-!
The exact numbers that numerals stand for, and the characters that they are made of. What is read
of a numeral stands for the number that is written.
-/

namespace PenPlotter.Numeral

/-- The number that digits before and after a point stand for. -/
def placesValue (whole fraction : List Char) : ℚ :=
  Nat.ofDigitChars 10 whole 0 + Nat.ofDigitChars 10 fraction 0 / 10 ^ fraction.length

/-- Characters are a numeral with a sign and a size. -/
inductive Written : Bool → ℚ → List Char → Prop
  | intro {negative : Bool} {exponent : Int} {sign whole fraction places tail : List Char}
    (signed : SignWritten negative sign) (placed : PlacesWritten whole fraction places)
    (scaled : ExponentWritten exponent tail)
    : Written negative (placesValue whole fraction * 10 ^ exponent) (sign ++ places ++ tail)

/-- The numeral that is read stands for the number that is written. -/
theorem toRat_ofPlaces (negative : Bool) (whole fraction : List Char) (exponent : Int)
    : (ofPlaces negative whole fraction exponent).decimal.ratio.toRat
      = placesValue whole fraction * 10 ^ exponent := by
  have ten : (10 : ℚ) ≠ 0 := by norm_num
  rw [Decimal.toRat_ratio, ofPlaces, placesValue, Nat.ofDigitChars_append,
    Nat.ofDigitChars_eq_ofDigitChars_zero, zpow_sub₀ ten, zpow_natCast]
  push_cast
  field_simp

/-- The reader accepts the numerals of the grammar, and gives the sign and the exact size. -/
theorem written_iff {negative : Bool} {value : ℚ} {chars : List Char}
    : Written negative value chars
      ↔ ∃ decimal : Decimal,
          readChars? chars = some ⟨negative, decimal⟩ ∧ decimal.ratio.toRat = value := by
  constructor
  · intro written
    cases written with
    | @intro exponent sign whole fraction places tail signed placed scaled =>
        refine ⟨(ofPlaces negative whole fraction exponent).decimal, ?_,
          toRat_ofPlaces negative whole fraction exponent⟩
        exact readChars?_eq_some_iff.mpr ⟨negative, exponent, sign, whole, fraction, places, tail,
          signed, placed, scaled, rfl, rfl⟩
  · rintro ⟨decimal, read, rfl⟩
    obtain ⟨sign', exponent, sign, whole, fraction, places, tail, signed, placed, scaled, rfl,
      same⟩ := readChars?_eq_some_iff.mp read
    obtain ⟨rfl, rfl⟩ := Numeral.mk.inj same
    have size := toRat_ofPlaces negative whole fraction exponent
    rw [ofPlaces] at size
    rw [size]
    exact .intro signed placed scaled

/-- No characters are numerals of two signs or sizes, since they are read in one way. -/
theorem Written.unique {negative other : Bool} {value more : ℚ} {chars : List Char}
    (written : Written negative value chars) (writtenToo : Written other more chars)
    : negative = other ∧ value = more := by
  obtain ⟨decimal, read, rfl⟩ := written_iff.mp written
  obtain ⟨decimalToo, readToo, rfl⟩ := written_iff.mp writtenToo
  obtain ⟨rfl, rfl⟩ := Numeral.mk.inj (Option.some.inj (read.symm.trans readToo))
  exact ⟨rfl, rfl⟩

-----------------------------------------------------------------------------------------
-- Characters
-----------------------------------------------------------------------------------------

/-- The characters of numerals that are no digits. -/
def marks : List Char :=
  ['+', '-', '.', 'e', 'E']

theorem SignWritten.mem_marks {negative : Bool} {sign : List Char}
    (signed : SignWritten negative sign)
    : ∀ c ∈ sign, c ∈ marks := by
  cases signed with
  | minus => exact List.forall_mem_singleton.mpr (by decide)
  | plus => exact List.forall_mem_singleton.mpr (by decide)
  | nothing => exact List.forall_mem_nil _

theorem ExponentWritten.isDigit_or_mark {exponent : Int} {tail : List Char}
    (scaled : ExponentWritten exponent tail)
    : ∀ c ∈ tail, c.isDigit = true ∨ c ∈ marks := by
  cases scaled with
  | nothing => exact List.forall_mem_nil _
  | marked letter signed some all =>
      refine List.forall_mem_cons.mpr ⟨?_, List.forall_mem_append.mpr ⟨?_, ?_⟩⟩
      · rcases letter with rfl | rfl <;> exact Or.inr (by decide)
      · exact fun c member => Or.inr (signed.mem_marks c member)
      · exact fun c member => Or.inl (all c member)

/-- A numeral is made of digits, signs, a point and the letter e, and holds a digit. -/
theorem Written.characters {negative : Bool} {value : ℚ} {chars : List Char}
    (written : Written negative value chars)
    : (∀ c ∈ chars, c.isDigit = true ∨ c ∈ marks) ∧ ∃ c ∈ chars, c.isDigit = true := by
  cases written with
  | intro signed placed scaled =>
      constructor
      · refine List.forall_mem_append.mpr ⟨List.forall_mem_append.mpr ⟨?_, ?_⟩, ?_⟩
        · exact fun c member => Or.inr (signed.mem_marks c member)
        · intro c member
          rcases placed.isDigit_or_point c member with digit | rfl
          · exact Or.inl digit
          · exact Or.inr (by decide)
        · exact scaled.isDigit_or_mark
      · obtain ⟨c, member, digit⟩ := placed.exists_digit
        exact ⟨c, List.mem_append_left _ (List.mem_append_right _ member), digit⟩

end PenPlotter.Numeral
