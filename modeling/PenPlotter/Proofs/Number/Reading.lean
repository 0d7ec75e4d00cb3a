import Mathlib.Data.List.TakeWhile
import PenPlotter.Number.Decimal

/-!
Numerals as they are written and as they are read. The grammar says nothing of a reader: a sign,
digits around a point, and an exponent, of which only some digits must be there. The reader finds
exactly the numerals of the grammar, and makes one number of all their digits.
-/

namespace PenPlotter.Numeral

-----------------------------------------------------------------------------------------
-- The grammar
-----------------------------------------------------------------------------------------

/-- A minus is written of what is negative, and a plus or nothing of anything else. -/
inductive SignWritten : Bool → List Char → Prop
  | minus : SignWritten true ['-']
  | plus : SignWritten false ['+']
  | nothing : SignWritten false []

/-- Some digits are written alone, or with a point after them, among them or before them. -/
inductive PlacesWritten : List Char → List Char → List Char → Prop
  | whole {whole : List Char} (some : whole ≠ []) (digits : ∀ c ∈ whole, c.isDigit = true)
    : PlacesWritten whole [] whole
  | point {whole fraction : List Char} (some : whole ++ fraction ≠ [])
    (digits : ∀ c ∈ whole ++ fraction, c.isDigit = true)
    : PlacesWritten whole fraction (whole ++ '.' :: fraction)

/-- An exponent is written as the letter e in either case, a sign and some digits. That of one
need not be written.
-/
inductive ExponentWritten : Int → List Char → Prop
  | nothing : ExponentWritten 0 []
  | marked {mark : Char} {negative : Bool} {sign digits : List Char}
    (letter : mark = 'e' ∨ mark = 'E') (signed : SignWritten negative sign)
    (some : digits ≠ []) (all : ∀ c ∈ digits, c.isDigit = true)
    : ExponentWritten
        (if negative then -(Nat.ofDigitChars 10 digits 0 : Int)
          else Nat.ofDigitChars 10 digits 0)
        (mark :: (sign ++ digits))

-----------------------------------------------------------------------------------------
-- The reader
-----------------------------------------------------------------------------------------

theorem takeSign_cons (c : Char) (rest : List Char)
    : takeSign (c :: rest)
      = if c = '-' then (true, rest) else if c = '+' then (false, rest)
        else (false, c :: rest) := by
  rw [takeSign.eq_def]
  split <;> simp_all

theorem takeFraction_cons (c : Char) (rest : List Char)
    : takeFraction (c :: rest)
      = if c = '.' then (rest.takeWhile Char.isDigit, rest.dropWhile Char.isDigit)
        else ([], c :: rest) := by
  rw [takeFraction.eq_def]
  split <;> simp_all

theorem signWritten_takeSign (chars : List Char)
    : ∃ sign, SignWritten (takeSign chars).1 sign ∧ chars = sign ++ (takeSign chars).2 := by
  cases chars with
  | nil => exact ⟨[], .nothing, rfl⟩
  | cons c rest =>
      rw [takeSign_cons]
      split
      next minus => exact ⟨['-'], .minus, by rw [minus]; rfl⟩
      next =>
        split
        next plus => exact ⟨['+'], .plus, by rw [plus]; rfl⟩
        next => exact ⟨[], .nothing, rfl⟩

/-- A sign is taken off from what does not begin with one. -/
theorem takeSign_append {negative : Bool} {sign rest : List Char}
    (signed : SignWritten negative sign) (plain : ∀ c ∈ rest.head?, c ≠ '-' ∧ c ≠ '+')
    : takeSign (sign ++ rest) = (negative, rest) := by
  cases signed with
  | minus => rfl
  | plus => rfl
  | nothing =>
      cases rest with
      | nil => rfl
      | cons c rest =>
          obtain ⟨noMinus, noPlus⟩ := plain c rfl
          rw [List.nil_append, takeSign_cons, if_neg noMinus, if_neg noPlus]

/-- A digit is no other character of a numeral. -/
theorem ne_of_isDigit {c d : Char} (digit : c.isDigit = true) (other : d.isDigit = false)
    : c ≠ d := by
  rintro rfl
  rw [digit] at other
  cases other

theorem readExponent?_eq_some_iff {exponent : Int} {chars : List Char}
    : readExponent? chars = some exponent ↔ ExponentWritten exponent chars := by
  constructor
  · intro read
    cases chars with
    | nil =>
        obtain rfl := Option.some.inj read
        exact .nothing
    | cons mark rest =>
        obtain ⟨sign, signed, split⟩ := signWritten_takeSign rest
        rw [readExponent?] at read
        simp only [Option.ite_none_right_eq_some, Bool.and_eq_true, Bool.or_eq_true,
          decide_eq_true_eq, bne_iff_ne, List.all_eq_true, Option.some.injEq] at read
        obtain ⟨⟨⟨letter, some⟩, all⟩, rfl⟩ := read
        have written := ExponentWritten.marked letter signed some all
        rwa [← split] at written
  · intro written
    cases written with
    | nothing => rfl
    | @marked mark negative sign digits letter signed some all =>
        have taken : takeSign (sign ++ digits) = (negative, digits) := by
          apply takeSign_append signed
          intro c first
          have digit := all c (List.mem_of_mem_head? first)
          exact ⟨ne_of_isDigit digit rfl, ne_of_isDigit digit rfl⟩
        rw [readExponent?, taken]
        simpa [letter, some] using all

/-- An exponent begins neither with a digit nor with a point. -/
theorem ExponentWritten.head {exponent : Int} {tail : List Char}
    (scaled : ExponentWritten exponent tail)
    : ∀ c ∈ tail.head?, c.isDigit = false ∧ c ≠ '.' := by
  intro c first
  cases scaled with
  | nothing => cases first
  | marked letter _ _ _ =>
      obtain rfl := Option.some.inj first
      rcases letter with rfl | rfl <;> exact ⟨rfl, by decide⟩

/-- Digits end before what is no digit. -/
theorem span_digits {digits rest : List Char} (all : ∀ c ∈ digits, c.isDigit = true)
    (ends : ∀ c ∈ rest.head?, c.isDigit = false)
    : (digits ++ rest).takeWhile Char.isDigit = digits
      ∧ (digits ++ rest).dropWhile Char.isDigit = rest := by
  rw [List.takeWhile_append_of_pos all, List.dropWhile_append_of_pos all]
  cases rest with
  | nil => exact ⟨List.append_nil digits, rfl⟩
  | cons c rest =>
      have letter : ¬c.isDigit = true := by
        rw [ends c rfl]
        exact Bool.false_ne_true
      rw [List.takeWhile_cons_of_neg letter, List.dropWhile_cons_of_neg letter]
      exact ⟨List.append_nil digits, rfl⟩

/-- A fraction is what digits follow a point, or is none. -/
theorem takeFraction_cases (chars : List Char)
    : (∃ rest,
        chars = '.' :: rest
        ∧ takeFraction chars = (rest.takeWhile Char.isDigit, rest.dropWhile Char.isDigit))
      ∨ takeFraction chars = ([], chars) := by
  cases chars with
  | nil => exact Or.inr rfl
  | cons c rest =>
      rw [takeFraction_cons]
      split
      next point => exact Or.inl ⟨rest, by rw [point], rfl⟩
      next => exact Or.inr rfl

/-- The digits that the reader takes are written in front of what it leaves. -/
theorem placesWritten_takeFraction {chars whole fraction rest : List Char}
    (before : chars.takeWhile Char.isDigit = whole)
    (after : takeFraction (chars.dropWhile Char.isDigit) = (fraction, rest))
    (some : whole ++ fraction ≠ [])
    : ∃ places, PlacesWritten whole fraction places ∧ chars = places ++ rest := by
  have split := List.takeWhile_append_dropWhile (p := Char.isDigit) (l := chars)
  have digits : ∀ c ∈ whole, c.isDigit = true := by
    rw [← before]
    exact fun _ member => List.mem_takeWhile_imp member
  rw [before] at split
  rcases takeFraction_cases (chars.dropWhile Char.isDigit) with ⟨more, point, taken⟩ | taken
  · obtain ⟨rfl, rfl⟩ := Prod.mk.inj (after.symm.trans taken)
    refine ⟨_, .point some ?_, ?_⟩
    · refine List.forall_mem_append.mpr ⟨digits, ?_⟩
      exact fun _ member => List.mem_takeWhile_imp member
    · rw [List.append_assoc, List.cons_append, List.takeWhile_append_dropWhile, ← point, split]
  · obtain ⟨rfl, rfl⟩ := Prod.mk.inj (after.symm.trans taken)
    rw [List.append_nil] at some
    exact ⟨whole, .whole some digits, split.symm⟩

/-- The reader takes the digits that are written in front of an exponent. -/
theorem PlacesWritten.takeFraction {whole fraction places rest : List Char}
    (placed : PlacesWritten whole fraction places)
    (ends : ∀ c ∈ rest.head?, c.isDigit = false ∧ c ≠ '.')
    : (places ++ rest).takeWhile Char.isDigit = whole
      ∧ Numeral.takeFraction ((places ++ rest).dropWhile Char.isDigit) = (fraction, rest) := by
  cases placed with
  | whole some digits =>
      obtain ⟨before, after⟩ := span_digits digits fun c first => (ends c first).1
      refine ⟨before, ?_⟩
      rw [after]
      cases rest with
      | nil => rfl
      | cons c rest => rw [takeFraction_cons, if_neg (ends c rfl).2]
  | point some digits =>
      obtain ⟨digitsBefore, digitsAfter⟩ := List.forall_mem_append.mp digits
      have pointFirst : ∀ c ∈ ('.' :: (fraction ++ rest)).head?, c.isDigit = false := by
        intro c first
        obtain rfl := Option.some.inj first
        rfl
      obtain ⟨before, after⟩ := span_digits digitsBefore pointFirst
      obtain ⟨inner, left⟩ := span_digits digitsAfter fun c first => (ends c first).1
      rw [List.append_assoc, List.cons_append, before, after, takeFraction_cons, if_pos rfl, inner,
        left]
      exact ⟨rfl, rfl⟩

theorem PlacesWritten.some {whole fraction places : List Char}
    (placed : PlacesWritten whole fraction places)
    : whole ++ fraction ≠ [] := by
  cases placed with
  | whole some digits => rwa [List.append_nil]
  | point some digits => exact some

/-- Places are written with digits and a point at most. -/
theorem PlacesWritten.isDigit_or_point {whole fraction places : List Char}
    (placed : PlacesWritten whole fraction places)
    : ∀ c ∈ places, c.isDigit = true ∨ c = '.' := by
  intro c member
  cases placed with
  | whole some digits => exact Or.inl (digits c member)
  | point some digits =>
      rcases List.mem_append.mp member with before | rest
      · exact Or.inl (digits c (List.mem_append_left _ before))
      · rcases List.mem_cons.mp rest with point | after
        · exact Or.inr point
        · exact Or.inl (digits c (List.mem_append_right _ after))

theorem PlacesWritten.exists_digit {whole fraction places : List Char}
    (placed : PlacesWritten whole fraction places)
    : ∃ c ∈ places, c.isDigit = true := by
  cases placed with
  | whole some digits =>
      obtain ⟨c, member⟩ := List.exists_mem_of_ne_nil _ some
      exact ⟨c, member, digits c member⟩
  | point some digits =>
      obtain ⟨c, member⟩ := List.exists_mem_of_ne_nil _ some
      refine ⟨c, ?_, digits c member⟩
      rcases List.mem_append.mp member with before | after
      · exact List.mem_append_left _ before
      · exact List.mem_append_right _ (List.mem_cons_of_mem _ after)

/-- Places do not begin with a sign. -/
theorem PlacesWritten.plain {whole fraction places : List Char}
    (placed : PlacesWritten whole fraction places) (rest : List Char)
    : ∀ c ∈ (places ++ rest).head?, c ≠ '-' ∧ c ≠ '+' := by
  intro c first
  obtain ⟨d, member, -⟩ := placed.exists_digit
  have head : (places ++ rest).head? = places.head? := by
    cases places with
    | nil => exact absurd member List.not_mem_nil
    | cons d more => rfl
  rw [head] at first
  rcases placed.isDigit_or_point c (List.mem_of_mem_head? first) with digit | rfl
  · exact ⟨ne_of_isDigit digit rfl, ne_of_isDigit digit rfl⟩
  · exact ⟨by decide, by decide⟩

/-- What the reader makes of digits and an exponent. -/
def ofPlaces (negative : Bool) (whole fraction : List Char) (exponent : Int) : Numeral :=
  ⟨negative, ⟨Nat.ofDigitChars 10 (whole ++ fraction) 0, exponent - fraction.length⟩⟩

/-- The reader makes one numeral of all digits, and each digit after the point takes one off the
exponent.
-/
theorem readChars?_eq_some_iff {chars : List Char} {numeral : Numeral}
    : readChars? chars = some numeral
      ↔ ∃ negative exponent sign whole fraction places tail,
          SignWritten negative sign
          ∧ PlacesWritten whole fraction places
          ∧ ExponentWritten exponent tail
          ∧ chars = sign ++ places ++ tail
          ∧ numeral = ofPlaces negative whole fraction exponent := by
  constructor
  · intro read
    obtain ⟨sign, signed, split⟩ := signWritten_takeSign chars
    generalize known : takeSign chars = taken at signed split
    obtain ⟨negative, unsigned⟩ := taken
    generalize before : unsigned.takeWhile Char.isDigit = whole
    generalize after : takeFraction (unsigned.dropWhile Char.isDigit) = fractionAndRest
    obtain ⟨fraction, rest⟩ := fractionAndRest
    simp only [readChars?, known, before, after, Option.ite_none_left_eq_some,
      Option.map_eq_some_iff] at read
    obtain ⟨some, exponent, scaled, rfl⟩ := read
    obtain ⟨places, placed, written⟩ := placesWritten_takeFraction before after some
    refine ⟨negative, exponent, sign, whole, fraction, places, rest, signed, placed,
      readExponent?_eq_some_iff.mp scaled, ?_, rfl⟩
    rw [split, written, List.append_assoc]
  · rintro ⟨negative, exponent, sign, whole, fraction, places, tail, signed, placed, scaled,
      rfl, rfl⟩
    obtain ⟨before, after⟩ := placed.takeFraction scaled.head
    have taken : takeSign (sign ++ places ++ tail) = (negative, places ++ tail) := by
      rw [List.append_assoc]
      exact takeSign_append signed (placed.plain tail)
    rw [readChars?, taken]
    simp only [before, after, if_neg placed.some, readExponent?_eq_some_iff.mpr scaled]
    rfl

-----------------------------------------------------------------------------------------
-- Numerals without an exponent
-----------------------------------------------------------------------------------------

/-- The characters of a number with its sign, of which only the minus is written. -/
def signed (negative : Bool) (chars : List Char) : List Char :=
  if negative then '-' :: chars else chars

theorem mem_signed {negative : Bool} {chars : List Char} {c : Char}
    (member : c ∈ signed negative chars)
    : c = '-' ∨ c ∈ chars := by
  cases negative with
  | true => exact List.mem_cons.mp member
  | false => exact Or.inr member

/-- Places behind a minus or nothing are read as they are, without an exponent. -/
theorem readChars?_signed {whole fraction places : List Char}
    (placed : PlacesWritten whole fraction places) (negative : Bool)
    : readChars? (signed negative places) = some (ofPlaces negative whole fraction 0) := by
  rw [readChars?_eq_some_iff]
  cases negative with
  | true =>
      exact ⟨true, 0, ['-'], whole, fraction, places, [], .minus, placed, .nothing,
        (List.append_nil _).symm, rfl⟩
  | false =>
      exact ⟨false, 0, [], whole, fraction, places, [], .nothing, placed, .nothing,
        (List.append_nil _).symm, rfl⟩

end PenPlotter.Numeral
