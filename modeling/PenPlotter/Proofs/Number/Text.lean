import PenPlotter.Proofs.Number.Reading
import PenPlotter.Proofs.Number.Shortest
import PenPlotter.Proofs.Reading.Spelling
import PenPlotter.Proofs.Text.Words

/-!
The text of a finite number is a numeral that reads back as the number, bit for bit. It is a
single word: digits, with a minus or a point at most.
-/

namespace PenPlotter

-----------------------------------------------------------------------------------------
-- Positional notation
-----------------------------------------------------------------------------------------

namespace Decimal

/-- The digits of the coefficient, without zeros on either side. -/
theorem isDigit_of_mem_toDigits {n : Nat} : ∀ c ∈ Nat.toDigits 10 n, c.isDigit = true :=
  fun _ member => Nat.isDigit_of_mem_toDigits (by decide) le_rfl member

theorem isDigit_of_mem_zeros {n : Nat} : ∀ c ∈ List.replicate n '0', c.isDigit = true := by
  intro c member
  rw [List.eq_of_mem_replicate member]
  rfl

/-- Characters show a decimal in positional notation: as digits alone, with zeros for a positive
exponent written out, or as digits with a point before as many as the exponent is negative.
-/
inductive Shows (d : Decimal) : List Char → Prop
  | whole {chars : List Char} (some : chars ≠ []) (digits : ∀ c ∈ chars, c.isDigit = true)
    (natural : 0 ≤ d.exponent)
    (value : Nat.ofDigitChars 10 chars 0 = d.coefficient * 10 ^ d.exponent.toNat)
    : Shows d chars
  | point {before after : List Char} (some : before ≠ [])
    (digits : ∀ c ∈ before ++ after, c.isDigit = true)
    (below : ¬0 ≤ d.exponent) (places : d.exponent = -after.length)
    (value : Nat.ofDigitChars 10 (before ++ after) 0 = d.coefficient)
    : Shows d (before ++ '.' :: after)

/-- A decimal is shown by what is written of it. By cases on where the point stands: after the
digits, among them, or before them.
-/
theorem shows_positional (d : Decimal) : d.Shows d.positional := by
  have digits := isDigit_of_mem_toDigits (n := d.coefficient)
  have some : Nat.toDigits 10 d.coefficient ≠ [] := Nat.toDigits_ne_nil
  have value : Nat.ofDigitChars 10 (Nat.toDigits 10 d.coefficient) 0 = d.coefficient :=
    Nat.ofDigitChars_ten_toDigits
  rw [positional]
  generalize Nat.toDigits 10 d.coefficient = chars at digits some value ⊢
  dsimp only
  split
  next natural =>
    refine .whole (List.append_ne_nil_of_left_ne_nil some _) ?_ natural ?_
    · exact List.forall_mem_append.mpr ⟨digits, isDigit_of_mem_zeros⟩
    · rw [Nat.ofDigitChars_append, Nat.ofDigitChars_replicate_zero, value, Nat.mul_comm]
  next below =>
    split
    next among =>
      have split := List.take_append_drop (chars.length - (-d.exponent).toNat) chars
      refine .point ?_ (by rwa [split]) below ?_ (by rwa [split])
      · rw [ne_eq, List.take_eq_nil_iff]
        rintro (none | none)
        · omega
        · exact some none
      · rw [List.length_drop]
        omega
    next apart =>
      let zeros := List.replicate ((-d.exponent).toNat - chars.length) '0'
      have padded : ∀ c ∈ zeros ++ chars, c.isDigit = true :=
        List.forall_mem_append.mpr ⟨isDigit_of_mem_zeros, digits⟩
      refine .point (List.cons_ne_nil '0' []) ?_ below ?_ ?_
      · exact List.forall_mem_cons.mpr ⟨rfl, padded⟩
      · rw [List.length_append, List.length_replicate]
        omega
      · rw [List.singleton_append, Nat.ofDigitChars_cons, Nat.ofDigitChars_append,
          Nat.ofDigitChars_replicate_zero]
        exact value

variable {d : Decimal} {chars : List Char}

/-- What shows a decimal is places of a numeral. These stand for the decimal with its zeros written
out.
-/
theorem Shows.exists_places (shows : d.Shows chars)
    : ∃ whole fraction,
        Numeral.PlacesWritten whole fraction chars
        ∧ ∀ negative,
            Numeral.ofPlaces negative whole fraction 0 = ⟨negative, d.writtenOut⟩ := by
  cases shows with
  | whole some digits natural value =>
      refine ⟨chars, [], .whole some digits, fun negative => ?_⟩
      rw [Numeral.ofPlaces, List.append_nil, value, writtenOut, if_pos natural]
      rfl
  | @point before after some digits below places value =>
      have digit : before ++ after ≠ [] := List.append_ne_nil_of_left_ne_nil some after
      refine ⟨before, after, .point digit digits, fun negative => ?_⟩
      rw [Numeral.ofPlaces, value, zero_sub, ← places, writtenOut, if_neg below]

/-- What shows a decimal is read as the decimal with its zeros written out. -/
theorem Shows.readChars? (shows : d.Shows chars) (negative : Bool)
    : Numeral.readChars? (Numeral.signed negative chars) = some ⟨negative, d.writtenOut⟩ := by
  obtain ⟨whole, fraction, placed, same⟩ := shows.exists_places
  rw [Numeral.readChars?_signed placed, same]

theorem Shows.isDigit_or_point (shows : d.Shows chars)
    : ∀ c ∈ chars, c.isDigit = true ∨ c = '.' := by
  obtain ⟨whole, fraction, placed, -⟩ := shows.exists_places
  exact placed.isDigit_or_point

end Decimal

-----------------------------------------------------------------------------------------
-- Texts of numbers
-----------------------------------------------------------------------------------------

namespace BinaryFloat

section

variable {α : Type} [BinaryFloat α]

theorem toList_text {x : α} (finite : isFinite x = true)
    : (text x).toList
      = Numeral.signed (isNegative x)
          (Shortest.decimal (format α) (magnitude x)).positional := by
  have below : magnitude x < (format α).infinity := of_decide_eq_true finite
  have number : isNaN x = false := decide_eq_false (Nat.not_lt.mpr below.le)
  rw [text, number, if_neg Bool.false_ne_true, String.toList_ofList, magnitudeChars,
    if_pos finite]
  rfl

/-- The text of a finite number is read as a numeral of its sign and its magnitude. -/
theorem read?_text {x : α} (finite : isFinite x = true)
    (deep : 0 ≤ (format α).leastExponent + (2 ^ (format α).exponentBits : Nat))
    : ∃ numeral,
        Numeral.read? (text x) = some numeral
        ∧ numeral.negative = isNegative x
        ∧ numeral.decimal.nearest (format α) = magnitude x := by
  have below : magnitude x < (format α).infinity := of_decide_eq_true finite
  have shortest := Shortest.nearest_decimal deep below
  refine ⟨⟨isNegative x, (Shortest.decimal (format α) (magnitude x)).writtenOut⟩, ?_, rfl, ?_⟩
  · rw [Numeral.read?, toList_text finite, (Decimal.shows_positional _).readChars?]
  · rw [Decimal.nearest_writtenOut (shortest.trans_lt below), shortest]

end

/-- A number is put together from its sign and its magnitude. -/
theorem ofMagnitude_magnitude (x : Float) : ofMagnitude (isNegative x) (magnitude x) = x := by
  have bits := x.toBits.toNat_lt
  have pattern
      : (if isNegative x then (format Float).signWeight + magnitude x else magnitude x)
        = x.toBits.toNat := by
    change (if decide (2 ^ 63 ≤ x.toBits.toNat) then 2 ^ 63 + x.toBits.toNat % 2 ^ 63
      else x.toBits.toNat % 2 ^ 63) = _
    simp only [decide_eq_true_eq]
    split <;> omega
  rw [ofMagnitude, pattern]
  change Float.ofBits (.ofNat x.toBits.toNat) = x
  rw [UInt64.ofNat_toNat, Float.ofBits_toBits]

section

open Float.Model (Format UnpackedFloat)

/-- A pattern up to infinity is kept. Only a pattern beyond it can be one that stands for no
number.
-/
theorem toBits_ofBits {bits : UInt64} (notAbove : bits.toNat % 2 ^ 63 ≤ (2 ^ 11 - 1) * 2 ^ 52)
    : (Float.ofBits bits).toBits = bits := by
  have valid : Format.binary64.Valid bits.toBitVec := by
    constructor
    intro full some
    exfalso
    apply some
    rw [← BitVec.toNat_inj] at full ⊢
    change (bits.toNat >>> 52) % 2 ^ 11 = 2 ^ 11 - 1 at full
    change (bits.toNat >>> 0) % 2 ^ 52 = 0
    rw [Nat.shiftRight_eq_div_pow] at full
    rw [Nat.shiftRight_zero]
    omega
  change UInt64.ofBitVec
    (UnpackedFloat.pack .binary64 (UnpackedFloat.unpack .binary64 bits.toBitVec)) = bits
  rw [UnpackedFloat.pack_unpack_of_valid valid]

/-- A number made of a sign and a magnitude has the pattern of these. -/
theorem toPattern_ofMagnitude (negative : Bool) {magnitude : Nat}
    (notAbove : magnitude ≤ (format Float).infinity)
    : toPattern (ofMagnitude negative magnitude : Float)
      = if negative then (format Float).signWeight + magnitude else magnitude := by
  have weight : (format Float).signWeight = 2 ^ 63 := rfl
  have infinity : (format Float).infinity = (2 ^ 11 - 1) * 2 ^ 52 := rfl
  rw [infinity] at notAbove
  rw [ofMagnitude, weight]
  generalize pattern : (if negative then 2 ^ 63 + magnitude else magnitude) = n
  have small : n < 2 ^ 64 ∧ n % 2 ^ 63 = magnitude := by
    rw [← pattern]
    split <;> omega
  have kept : (UInt64.ofNat n).toNat = n := UInt64.toNat_ofNat_of_lt' small.1
  change (Float.ofBits (UInt64.ofNat n)).toBits.toNat = n
  rw [toBits_ofBits, kept]
  rw [kept, small.2]
  exact notAbove

end

theorem magnitude_ofMagnitude (negative : Bool) {m : Nat}
    (notAbove : m ≤ (format Float).infinity)
    : magnitude (ofMagnitude negative m : Float) = m := by
  have infinity : (format Float).infinity < (format Float).signWeight := by decide
  have small := notAbove.trans_lt infinity
  rw [magnitude, toPattern_ofMagnitude negative notAbove]
  split
  · rw [Nat.add_mod_left, Nat.mod_eq_of_lt small]
  · exact Nat.mod_eq_of_lt small

theorem isNegative_ofMagnitude (negative : Bool) {magnitude : Nat}
    (notAbove : magnitude ≤ (format Float).infinity)
    : isNegative (ofMagnitude negative magnitude : Float) = negative := by
  have infinity : (format Float).infinity < (format Float).signWeight := by decide
  have small := notAbove.trans_lt infinity
  rw [isNegative, toPattern_ofMagnitude negative notAbove]
  cases negative with
  | true => exact decide_eq_true (Nat.le_add_right _ _)
  | false => exact decide_eq_false (Nat.not_le.mpr small)

/-- The text of a finite number reads back as that number, bit for bit. -/
theorem number?_text {x : Float} (finite : x.isFinite = true)
    : Argument.number? (text x) = some x := by
  rw [← isFinite_eq] at finite
  obtain ⟨numeral, read, sign, nearest⟩ := read?_text finite (by decide)
  rw [Argument.number?_eq_some_iff]
  refine ⟨by rwa [← isFinite_eq], numeral, read, ?_⟩
  rw [Numeral.toFloat, sign, nearest, ofMagnitude_magnitude]

/-- The text of a finite number is a single word. It has characters, since it is read back. -/
theorem words_text {x : Float} (finite : x.isFinite = true)
    : Text.words (text x) = [text x] := by
  refine Text.words_eq_singleton_iff.mpr ⟨?_, ?_⟩
  · intro empty
    have read := number?_text finite
    rw [empty] at read
    cases read
  · intro c member
    rw [toList_text (by rwa [isFinite_eq])] at member
    rcases Numeral.mem_signed member with rfl | written
    · rfl
    · rcases (Decimal.shows_positional _).isDigit_or_point c written with digit | rfl
      · have range : 48 ≤ c.toNat ∧ c.toNat ≤ 57 := Char.isDigit_iff_toNat.mp digit
        exact Text.isBlank_eq_false (by omega) (by omega)
      · rfl

end BinaryFloat

end PenPlotter
