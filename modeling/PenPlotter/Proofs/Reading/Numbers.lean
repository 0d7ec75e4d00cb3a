import PenPlotter.Proofs.Number.Numerals
import PenPlotter.Proofs.Number.Text

/-!
Exactly the finite numerals are numbers. A word is one if it is a numeral of the grammar whose
size is below the least that is rounded to infinity, and the number is then the nearest one, with
the sign that is written.
-/

namespace PenPlotter

-----------------------------------------------------------------------------------------
-- From numerals to numbers
-----------------------------------------------------------------------------------------

open BinaryFormat (binary64)

namespace Decimal

theorem nearest_binary64 (d : Decimal) : d.nearest binary64 = binary64.nearest d.ratio :=
  d.nearest_eq_nearest_ratio (by decide) (by decide) (by decide)

theorem nearest_le_infinity (d : Decimal) : d.nearest binary64 ≤ binary64.infinity := by
  rw [nearest_binary64]
  exact BinaryFormat.nearest_le_infinity d.ratio

/-- A decimal is rounded to a finite magnitude if it is below the overflow. -/
theorem nearest_lt_infinity_iff (d : Decimal)
    : d.nearest binary64 < binary64.infinity ↔ d.ratio.toRat < 2 ^ 1024 - 2 ^ 970 := by
  rw [nearest_binary64, ← BinaryFormat.overflow_binary64]
  exact BinaryFormat.nearest_lt_infinity_iff (by decide) (by decide) d.den_ratio_pos

theorem exists_roundsTo {d : Decimal} (finite : d.ratio.toRat < 2 ^ 1024 - 2 ^ 970)
    : ∃ below, binary64.RoundsTo d.ratio.toRat below (d.nearest binary64) := by
  rw [← nearest_lt_infinity_iff, nearest_binary64] at finite
  rw [nearest_binary64]
  exact BinaryFormat.exists_roundsTo_nearest (by decide) d.den_ratio_pos finite

end Decimal

namespace Numeral

theorem magnitude_toFloat (n : Numeral)
    : BinaryFloat.magnitude (n.toFloat : Float) = n.decimal.nearest binary64 :=
  BinaryFloat.magnitude_ofMagnitude _ n.decimal.nearest_le_infinity

theorem isNegative_toFloat (n : Numeral)
    : BinaryFloat.isNegative (n.toFloat : Float) = n.negative :=
  BinaryFloat.isNegative_ofMagnitude _ n.decimal.nearest_le_infinity

end Numeral

namespace Argument

/-- A word is a number if it is read as a numeral below the overflow. -/
theorem number?_eq_some_iff_read {word : String} {x : Float}
    : number? word = some x
      ↔ ∃ numeral,
          Numeral.readChars? word.toList = some numeral
          ∧ numeral.decimal.ratio.toRat < 2 ^ 1024 - 2 ^ 970
          ∧ numeral.toFloat = x := by
  rw [number?_eq_some_iff, Spells, ← BinaryFloat.isFinite_eq, BinaryFloat.isFinite,
    decide_eq_true_iff]
  constructor
  · rintro ⟨finite, numeral, read, rfl⟩
    rw [numeral.magnitude_toFloat] at finite
    exact ⟨numeral, read, numeral.decimal.nearest_lt_infinity_iff.mp finite, rfl⟩
  · rintro ⟨numeral, read, small, rfl⟩
    refine ⟨?_, numeral, read, rfl⟩
    rw [numeral.magnitude_toFloat]
    exact numeral.decimal.nearest_lt_infinity_iff.mpr small

/-- The number that is read has the written sign and the magnitude nearest to what is written. A
number with this sign and this magnitude is no other, since only one magnitude is nearest.
-/
theorem number?_eq_some_iff_nearest {word : String} {x : Float}
    : number? word = some x
      ↔ ∃ value,
          Numeral.Written (BinaryFloat.isNegative x) value word.toList
          ∧ value < 2 ^ 1024 - 2 ^ 970
          ∧ binary64.IsNearest (BinaryFloat.magnitude x) value := by
  rw [number?_eq_some_iff_read]
  constructor
  · rintro ⟨numeral, read, small, rfl⟩
    obtain ⟨below, rounds⟩ := Decimal.exists_roundsTo small
    rw [numeral.isNegative_toFloat, numeral.magnitude_toFloat]
    refine ⟨numeral.decimal.ratio.toRat, ?_, small, ?_⟩
    · exact Numeral.written_iff.mpr ⟨numeral.decimal, read, rfl⟩
    · exact rounds.isNearest (by decide) (numeral.decimal.nearest_lt_infinity_iff.mpr small)
  · rintro ⟨value, written, small, nearest⟩
    obtain ⟨decimal, read, rfl⟩ := Numeral.written_iff.mp written
    obtain ⟨below, rounds⟩ := Decimal.exists_roundsTo small
    have same : BinaryFloat.magnitude x = decimal.nearest binary64 :=
      rounds.eq_of_isNearest (by decide) (decimal.nearest_lt_infinity_iff.mpr small) nearest
    refine ⟨⟨BinaryFloat.isNegative x, decimal⟩, read, small, ?_⟩
    calc BinaryFloat.ofMagnitude (BinaryFloat.isNegative x) (decimal.nearest binary64)
        = BinaryFloat.ofMagnitude (BinaryFloat.isNegative x) (BinaryFloat.magnitude x) := by
          rw [same]
      _ = x := BinaryFloat.ofMagnitude_magnitude x

/-- A numeral below the overflow is read as some number with its sign, and the numeral is between
two neighbours for the magnitude of this number.
-/
theorem exists_number?_of_written {word : String} {negative : Bool} {value : ℚ}
    (written : Numeral.Written negative value word.toList) (small : value < 2 ^ 1024 - 2 ^ 970)
    : ∃ x below,
        number? word = some x
        ∧ BinaryFloat.isNegative x = negative
        ∧ binary64.RoundsTo value below (BinaryFloat.magnitude x) := by
  obtain ⟨decimal, read, rfl⟩ := Numeral.written_iff.mp written
  obtain ⟨below, rounds⟩ := Decimal.exists_roundsTo small
  refine ⟨Numeral.toFloat ⟨negative, decimal⟩, below, ?_, ?_, ?_⟩
  · exact number?_eq_some_iff_read.mpr ⟨_, read, small, rfl⟩
  · exact Numeral.isNegative_toFloat _
  · rwa [Numeral.magnitude_toFloat]

theorem exists_number?_iff {word : String}
    : (∃ x, number? word = some x)
      ↔ ∃ negative value,
          Numeral.Written negative value word.toList ∧ value < 2 ^ 1024 - 2 ^ 970 := by
  constructor
  · rintro ⟨x, read⟩
    obtain ⟨value, written, small, -⟩ := number?_eq_some_iff_nearest.mp read
    exact ⟨BinaryFloat.isNegative x, value, written, small⟩
  · rintro ⟨negative, value, written, small⟩
    obtain ⟨x, below, read, -, -⟩ := exists_number?_of_written written small
    exact ⟨x, read⟩

/-- A numeral from the overflow on is refused, since no word is a numeral of two sizes. -/
theorem number?_eq_none_of_overflow {word : String} {negative : Bool} {value : ℚ}
    (written : Numeral.Written negative value word.toList) (large : 2 ^ 1024 - 2 ^ 970 ≤ value)
    : number? word = none := by
  rw [Option.eq_none_iff_forall_ne_some]
  intro x read
  obtain ⟨other, writtenToo, small, -⟩ := number?_eq_some_iff_nearest.mp read
  rw [(written.unique writtenToo).2] at large
  exact small.not_ge large

/-- A number is spelled with the characters of numerals, and with a digit. -/
theorem characters_of_number? {word : String} {x : Float} (read : number? word = some x)
    : (∀ c ∈ word.toList, c.isDigit = true ∨ c ∈ Numeral.marks)
      ∧ ∃ c ∈ word.toList, c.isDigit = true := by
  obtain ⟨value, written, -, -⟩ := number?_eq_some_iff_nearest.mp read
  exact written.characters

/-- The names of what is no finite number. -/
def nonfiniteNames : List String :=
  ["inf", "infinity", "nan"]

/-- The names have a letter, in either case, that no numeral has. -/
theorem number?_of_nonfiniteNames {name spelling : String} (listed : name ∈ nonfiniteNames)
    (alike : Text.AlikeButForCase name spelling) (sign : String)
    : number? (sign ++ spelling) = none := by
  have lettered : ∀ name ∈ nonfiniteNames, 'n' ∈ (Text.foldCase name).toList := by decide
  have letter := lettered name listed
  rw [Text.foldCase_eq_foldCase_iff.mpr alike, Text.toList_foldCase, List.mem_map] at letter
  obtain ⟨c, member, folded⟩ := letter
  have present : c ∈ (sign ++ spelling).toList := by
    rw [String.toList_append]
    exact List.mem_append_right _ member
  rw [Option.eq_none_iff_forall_ne_some]
  intro x read
  rcases (characters_of_number? read).1 c present with digit | mark
  · have range : 48 ≤ c.toNat ∧ c.toNat ≤ 57 := Char.isDigit_iff_toNat.mp digit
    have code := Text.toNat_toLower c
    have same : 'n'.toNat = 110 := rfl
    rw [folded, same] at code
    split at code <;> omega
  · have others : Numeral.marks.all (fun mark => mark.toLower != 'n') = true := by decide
    exact absurd folded (bne_iff_ne.mp (List.all_eq_true.mp others c mark))

/-- A numeral that is rounded to less than the least normal number is read as a subnormal number or
zero with its sign, and as zero up to half the least number.
-/
theorem exists_number?_of_underflow {word : String} {negative : Bool} {value : ℚ}
    (written : Numeral.Written negative value word.toList)
    (tiny : value < 2 ^ (-1022 : ℤ) - 2 ^ (-1075 : ℤ))
    : ∃ x,
        number? word = some x
        ∧ BinaryFloat.isNegative x = negative
        ∧ BinaryFloat.magnitude x < 2 ^ 52
        ∧ (BinaryFloat.magnitude x = 0 ↔ value ≤ 2 ^ (-1075 : ℤ)) := by
  rw [← BinaryFormat.midpoint_subnormal] at tiny
  have small : value < 2 ^ 1024 - 2 ^ 970 := by
    rw [← BinaryFormat.overflow_binary64]
    exact tiny.trans (binary64.midpoint_strictMono (by decide))
  obtain ⟨x, below, read, sign, rounds⟩ := exists_number?_of_written written small
  refine ⟨x, read, sign, ?_, ?_⟩
  · exact Nat.lt_of_le_pred (by decide) ((rounds.le_iff _).mpr (Or.inl tiny))
  · have middle : binary64.midpoint 0 = 2 ^ (-1075 : ℤ) := binary64.midpoint_zero
    rw [← Nat.le_zero, rounds.le_iff 0, middle, le_iff_lt_or_eq]
    simp

end Argument

-----------------------------------------------------------------------------------------
-- Exactly the finite numerals
-----------------------------------------------------------------------------------------

/-- Exactly the finite numerals are numbers. A word is accepted when it is a numeral whose exact
size is below the least that rounds to infinity. The number has the written sign, which zero keeps,
and the magnitude nearest to the exact size, of two equally near the one with the even significand.
So what rounds to infinity is refused, and what is too small for a normal number is a subnormal
number or a zero. And a word is refused if it holds anything but digits, signs, points and the
letter e, or no digit, or if it names infinity or no number.
-/
theorem Argument.numbers_are_the_finite_numerals
    : (∀ word,
        (∃ x, read? .number word = some x)
        ↔ ∃ negative value,
            Numeral.Written negative value word.toList ∧ value < 2 ^ 1024 - 2 ^ 970)
      ∧ (∀ word (x : Float),
          read? .number word = some x
          ↔ ∃ value,
              Numeral.Written (BinaryFloat.isNegative x) value word.toList
              ∧ value < 2 ^ 1024 - 2 ^ 970
              ∧ binary64.IsNearest (BinaryFloat.magnitude x) value)
      ∧ (∀ word negative value,
          Numeral.Written negative value word.toList
          → 2 ^ 1024 - 2 ^ 970 ≤ value
          → read? .number word = none)
      ∧ (∀ word negative value,
          Numeral.Written negative value word.toList
          → value < 2 ^ (-1022 : ℤ) - 2 ^ (-1075 : ℤ)
          → ∃ x : Float,
              read? .number word = some x
              ∧ BinaryFloat.isNegative x = negative
              ∧ BinaryFloat.magnitude x < 2 ^ 52
              ∧ (BinaryFloat.magnitude x = 0 ↔ value ≤ 2 ^ (-1075 : ℤ)))
      ∧ (∀ word (x : Float),
          read? .number word = some x
          → (∀ c ∈ word.toList, c.isDigit = true ∨ c ∈ Numeral.marks)
            ∧ ∃ c ∈ word.toList, c.isDigit = true)
      ∧ ∀ name ∈ nonfiniteNames, ∀ spelling sign,
          Text.AlikeButForCase name spelling
          → read? .number (sign ++ spelling) = none := by
  refine ⟨fun _ => exists_number?_iff, fun _ _ => number?_eq_some_iff_nearest, ?_, ?_, ?_, ?_⟩
  · exact fun _ _ _ written large => number?_eq_none_of_overflow written large
  · exact fun _ _ _ written tiny => exists_number?_of_underflow written tiny
  · exact fun _ _ read => characters_of_number? read
  · exact fun _ listed _ sign alike => number?_of_nonfiniteNames listed alike sign

/-- An exponent that leads beyond all finite numbers leaves zero as it is, with its sign. -/
theorem Argument.numbers_are_the_finite_numerals_of_large_exponent
    : read? .number "1e309" = none
      ∧ (∃ x : Float,
          read? .number "-0e309" = some x
          ∧ BinaryFloat.isNegative x = true
          ∧ BinaryFloat.magnitude x = 0
          ∧ ∃ c ∈ "-0e309".toList, c.isDigit = true)
      ∧ read? .number "+NaN" = none := by
  obtain ⟨-, -, overflow, underflow, characters, names⟩ := numbers_are_the_finite_numerals
  have one : Numeral.Written false (Decimal.mk 1 309).ratio.toRat "1e309".toList :=
    Numeral.written_iff.mpr ⟨_, rfl, rfl⟩
  have zero : Numeral.Written true (Decimal.mk 0 309).ratio.toRat "-0e309".toList :=
    Numeral.written_iff.mpr ⟨_, rfl, rfl⟩
  rw [Decimal.toRat_ratio] at one zero
  rw [Nat.cast_zero, zero_mul] at zero
  refine ⟨?_, ?_, ?_⟩
  · apply overflow "1e309" false _ one
    have large : 2 ^ 1024 ≤ 10 ^ 309 := by decide +kernel
    have bound : (2 : ℚ) ^ 1024 ≤ 10 ^ 309 := by exact_mod_cast large
    rw [Nat.cast_one, one_mul]
    exact (sub_le_self _ (by positivity)).trans bound
  · have tiny : (0 : ℚ) < 2 ^ (-1022 : ℤ) - 2 ^ (-1075 : ℤ) :=
      sub_pos.mpr (zpow_lt_zpow_right₀ one_lt_two (by decide))
    obtain ⟨x, read, sign, -, size⟩ := underflow "-0e309" true 0 zero tiny
    exact ⟨x, read, sign, size.mpr (by positivity), (characters "-0e309" x read).2⟩
  · exact names "nan" (by decide) "NaN" "+" (Text.foldCase_eq_foldCase_iff.mp rfl)

end PenPlotter
