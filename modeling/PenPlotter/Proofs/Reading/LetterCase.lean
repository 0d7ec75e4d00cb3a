import PenPlotter.Language.Parse
import PenPlotter.Proofs.Number.Reading
import PenPlotter.Proofs.Reading.Spelling
import PenPlotter.Proofs.Text.Folding
import PenPlotter.Proofs.Text.Words

/-!
Letter case in what is read. A folded line is read as the line itself is, except that a fault
keeps its word as it was written: the fault of a folded line is the folded fault.
-/

namespace PenPlotter

-----------------------------------------------------------------------------------------
-- Numerals
-----------------------------------------------------------------------------------------

namespace Numeral

theorem isDigit_comp_toLower : Char.isDigit ∘ Char.toLower = Char.isDigit := by
  funext c
  have bounds : '0'.toNat = 48 ∧ '9'.toNat = 57 := by decide
  rw [Function.comp, Bool.eq_iff_iff, Char.isDigit_iff_toNat, Char.isDigit_iff_toNat,
    Text.toNat_toLower]
  simp only [Text.isUpper_iff]
  split <;> omega

theorem map_toLower_of_digits {digits : List Char} (all : ∀ c ∈ digits, c.isDigit = true)
    : digits.map Char.toLower = digits := by
  have fixed : ∀ c ∈ digits, c.toLower = id c := by
    intro c member
    have least := (Char.isDigit_iff_toNat.mp (all c member)).2
    have bound : '9'.toNat = 57 := by decide
    rw [id, Text.toLower_eq_self_iff, Bool.eq_false_iff, ne_eq, Text.isUpper_iff]
    omega
  rw [List.map_congr_left fixed, List.map_id]

/-- Digits in front are the same in small letters, and what follows them is made small. -/
theorem takeWhile_isDigit_toLower (chars : List Char)
    : (chars.map Char.toLower).takeWhile Char.isDigit = chars.takeWhile Char.isDigit := by
  rw [List.takeWhile_map, isDigit_comp_toLower]
  exact map_toLower_of_digits fun c member => List.mem_takeWhile_imp member

theorem dropWhile_isDigit_toLower (chars : List Char)
    : (chars.map Char.toLower).dropWhile Char.isDigit
      = (chars.dropWhile Char.isDigit).map Char.toLower := by
  rw [List.dropWhile_map, isDigit_comp_toLower]

theorem takeSign_map_toLower (chars : List Char)
    : takeSign (chars.map Char.toLower)
      = ((takeSign chars).1, (takeSign chars).2.map Char.toLower) := by
  cases chars with
  | nil => rfl
  | cons c rest =>
      have minus : c.toLower = '-' ↔ c = '-' := Text.toLower_eq_iff (by decide)
      have plus : c.toLower = '+' ↔ c = '+' := Text.toLower_eq_iff (by decide)
      simp only [List.map_cons, takeSign_cons, minus, plus]
      split
      · rfl
      · split <;> rfl

theorem takeFraction_map_toLower (chars : List Char)
    : takeFraction (chars.map Char.toLower)
      = ((takeFraction chars).1, (takeFraction chars).2.map Char.toLower) := by
  cases chars with
  | nil => rfl
  | cons c rest =>
      have point : c.toLower = '.' ↔ c = '.' := Text.toLower_eq_iff (by decide)
      simp only [List.map_cons, takeFraction_cons, point, takeWhile_isDigit_toLower,
        dropWhile_isDigit_toLower]
      split <;> rfl

/-- The letter of the exponent may be a capital. -/
theorem toLower_eq_exponentLetter (c : Char)
    : (c.toLower = 'e' ∨ c.toLower = 'E') ↔ (c = 'e' ∨ c = 'E') := by
  have letters : 'e'.toNat = 101 ∧ 'E'.toNat = 69 := by decide
  simp only [← Char.toNat_inj, Text.toNat_toLower, Text.isUpper_iff]
  split <;> omega

theorem readExponent?_map_toLower (chars : List Char)
    : readExponent? (chars.map Char.toLower) = readExponent? chars := by
  cases chars with
  | nil => rfl
  | cons c rest =>
      have letter := toLower_eq_exponentLetter c
      simp only [List.map_cons, readExponent?, takeSign_map_toLower, List.all_map,
        isDigit_comp_toLower, Bool.and_eq_true, Bool.or_eq_true, decide_eq_true_eq, letter,
        bne_iff_ne, ne_eq, List.map_eq_nil_iff]
      split
      next accepted => rw [map_toLower_of_digits (List.all_eq_true.mp accepted.2)]
      next => rfl

/-- A numeral may have a capital letter before its exponent, and has no other letters. -/
theorem readChars?_map_toLower (chars : List Char)
    : readChars? (chars.map Char.toLower) = readChars? chars := by
  simp only [readChars?, takeSign_map_toLower, takeWhile_isDigit_toLower,
    dropWhile_isDigit_toLower, takeFraction_map_toLower, readExponent?_map_toLower]

theorem read?_foldCase (word : String) : read? (Text.foldCase word) = read? word := by
  rw [read?, read?, Text.toList_foldCase, readChars?_map_toLower]

end Numeral

-----------------------------------------------------------------------------------------
-- Arguments and keywords
-----------------------------------------------------------------------------------------

namespace Argument

theorem number?_foldCase (word : String) : number? (Text.foldCase word) = number? word := by
  rw [number?, number?, Numeral.read?_foldCase]

theorem colorName?_foldCase (word : String)
    : colorName? (Text.foldCase word) = colorName? word := by
  have same : Text.isLetter ∘ Char.toLower = Text.isLetter :=
    funext Char.isAlpha_toLower_eq_isAlpha
  rw [colorName?, colorName?, Text.toList_foldCase, List.all_map, same, Text.foldCase_foldCase]

theorem toggle?_foldCase (word : String) : toggle? (Text.foldCase word) = toggle? word := by
  rw [toggle?, toggle?, Text.foldCase_foldCase]

theorem read?_foldCase (kind : ArgumentKind) (word : String)
    : read? kind (Text.foldCase word) = read? kind word := by
  cases kind with
  | number => exact number?_foldCase word
  | colorName => exact colorName?_foldCase word
  | toggle => exact toggle?_foldCase word

end Argument

theorem Command.ofKeyword?_foldCase (word : String)
    : ofKeyword? (Text.foldCase word) = ofKeyword? word := by
  simp only [ofKeyword?, Text.spelledAlike, Text.foldCase_foldCase]

-----------------------------------------------------------------------------------------
-- Lines
-----------------------------------------------------------------------------------------

/-- A fault with its word in small letters. -/
def FormFault.foldCase : FormFault → FormFault
  | .unknownCommand word => .unknownCommand (Text.foldCase word)
  | .badArgument command position word => .badArgument command position (Text.foldCase word)
  | fault => fault

def BadWord.foldCase (bad : BadWord) : BadWord :=
  { bad with word := Text.foldCase bad.word }

/-- Folded words are read as the words are, up to the first bad one, by induction on the kinds. -/
theorem Arguments.read_map_foldCase {position : Nat} {kinds : List ArgumentKind}
    {words : List String} (sameLength : (words.map Text.foldCase).length = kinds.length)
    : read position kinds (words.map Text.foldCase) sameLength
      = (read position kinds words (by simpa using sameLength)).mapError BadWord.foldCase := by
  induction kinds generalizing position words with
  | nil =>
      cases words with
      | nil => rfl
      | cons word words => cases sameLength
  | cons kind kinds ih =>
      cases words with
      | nil => cases sameLength
      | cons word words =>
          simp only [List.map_cons, read, Argument.read?_foldCase]
          cases Argument.read? kind word with
          | none => rfl
          | some value =>
              rw [ih]
              cases read (position + 1) kinds words _ <;> rfl

namespace Instruction

theorem ofWords_map_foldCase (words : List String)
    : ofWords (words.map Text.foldCase) = (ofWords words).mapError FormFault.foldCase := by
  cases words with
  | nil => rfl
  | cons head words =>
      rw [List.map_cons, ofWords, ofWords, Command.ofKeyword?_foldCase]
      cases Command.ofKeyword? head with
      | none => rfl
      | some command =>
          by_cases sameLength : words.length = command.arity
          · have folded : (words.map Text.foldCase).length = command.arity := by
              rw [List.length_map, sameLength]
            have read
                : Arguments.read 0 command.signature (words.map Text.foldCase) folded
                  = (Arguments.read 0 command.signature words sameLength).mapError
                    BadWord.foldCase :=
              Arguments.read_map_foldCase folded
            simp only [dif_pos folded, dif_pos sameLength, read]
            cases Arguments.read 0 command.signature words sameLength <;> rfl
          · simp only [List.length_map, dif_neg sameLength]
            rfl

theorem parse_foldCase (line : String)
    : parse (Text.foldCase line) = (parse line).mapError FormFault.foldCase := by
  rw [parse_eq_ofWords, parse_eq_ofWords, Text.words_foldCase, ofWords_map_foldCase]

end Instruction

end PenPlotter
