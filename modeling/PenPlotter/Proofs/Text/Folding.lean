import PenPlotter.Proofs.Text.Case
import PenPlotter.Proofs.Text.SourceLines
import PenPlotter.Text.Words

/-!
Folding a text changes letters only. It makes and takes no blank and no line feed, so the words
and the numbered lines of a folded text are the folded words and lines of the text.
-/

namespace PenPlotter.Text

-----------------------------------------------------------------------------------------
-- Characters
-----------------------------------------------------------------------------------------

theorem isBlank_toLower (c : Char) : isBlank c.toLower = isBlank c := by
  cases capital : c.isUpper with
  | false => rw [toLower_eq_self_iff.mpr capital]
  | true =>
      have range := isUpper_iff.mp capital
      have lowered : c.toLower.toNat = c.toNat + 32 := by rw [toNat_toLower, if_pos capital]
      rw [isBlank_eq_false (by omega) (by omega), isBlank_eq_false (by omega) (by omega)]

/-- Only a letter becomes a letter, and all other characters stay. -/
theorem toLower_eq_iff {c d : Char} (other : d.isAlpha = false) : c.toLower = d ↔ c = d := by
  have fixed {e : Char} (noLetter : e.isAlpha = false) : e.toLower = e := by
    rw [Char.isAlpha, Bool.or_eq_false_iff] at noLetter
    exact toLower_eq_self_iff.mpr noLetter.1
  constructor
  · intro same
    have noLetter : c.isAlpha = false := by rw [← Char.isAlpha_toLower_eq_isAlpha, same, other]
    exact (fixed noLetter).symm.trans same
  · rintro rfl
    exact fixed other

-----------------------------------------------------------------------------------------
-- Words
-----------------------------------------------------------------------------------------

theorem startsInWord_map_toLower (chars : List Char)
    : startsInWord (chars.map Char.toLower) = startsInWord chars := by
  cases chars with
  | nil => rfl
  | cons c rest => rw [List.map_cons, startsInWord, startsInWord, isBlank_toLower]

theorem attach_map_toLower (c : Char) (touching : Bool) (words : List (List Char))
    : attach c.toLower touching (words.map (List.map Char.toLower))
      = (attach c touching words).map (List.map Char.toLower) := by
  cases words with
  | nil => rfl
  | cons word words => cases touching <;> rfl

theorem wordChars_map_toLower (chars : List Char)
    : wordChars (chars.map Char.toLower) = (wordChars chars).map (List.map Char.toLower) := by
  induction chars with
  | nil => rfl
  | cons c rest ih =>
      rw [List.map_cons, wordChars, wordChars, ih, isBlank_toLower, startsInWord_map_toLower,
        attach_map_toLower]
      split <;> rfl

theorem words_foldCase (text : String) : words (foldCase text) = (words text).map foldCase := by
  simp [words, wordChars_map_toLower, foldCase, Function.comp_def]

-----------------------------------------------------------------------------------------
-- Lines
-----------------------------------------------------------------------------------------

theorem joinFirst_map_toLower (c : Char) (pieces : List (List Char))
    : joinFirst c.toLower (pieces.map (List.map Char.toLower))
      = (joinFirst c pieces).map (List.map Char.toLower) := by
  cases pieces <;> rfl

/-- Folding keeps the cuts at a separator that is no letter, by induction on the text. -/
theorem pieces_map_toLower {separator : Char} (other : separator.isAlpha = false)
    (chars : List Char)
    : pieces separator (chars.map Char.toLower)
      = (pieces separator chars).map (List.map Char.toLower) := by
  induction chars with
  | nil => rfl
  | cons c rest ih =>
      rw [List.map_cons, pieces, pieces, ih, joinFirst_map_toLower]
      simp only [toLower_eq_iff other]
      split <;> rfl

theorem trimChars_map_toLower (chars : List Char)
    : trimChars (chars.map Char.toLower) = (trimChars chars).map Char.toLower := by
  have same : isBlank ∘ Char.toLower = isBlank := funext isBlank_toLower
  simp only [trimChars, List.dropWhile_map, ← List.map_reverse, same]

/-- A line with its capitals made small. -/
def SourceLine.foldCase (line : SourceLine) : SourceLine :=
  { line with text := Text.foldCase line.text }

theorem numberLines_map_toLower (first : Nat) (lines : List (List Char))
    : numberLines first (lines.map (List.map Char.toLower))
      = (numberLines first lines).map SourceLine.foldCase := by
  induction lines generalizing first with
  | nil => rfl
  | cons line lines ih =>
      rw [List.map_cons, numberLines_cons, numberLines_cons, trimChars_map_toLower, ih]
      simp only [List.map_eq_nil_iff]
      split
      · rfl
      · simp [SourceLine.foldCase, Text.foldCase]

theorem sourceLines_foldCase (text : String)
    : sourceLines (foldCase text) = (sourceLines text).map SourceLine.foldCase := by
  have feed : '\n'.isAlpha = false := by decide
  rw [sourceLines_eq_numberLines, sourceLines_eq_numberLines, toList_foldCase,
    pieces_map_toLower feed, numberLines_map_toLower]

end PenPlotter.Text
