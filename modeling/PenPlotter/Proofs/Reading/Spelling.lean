import PenPlotter.Language.Argument
import PenPlotter.Proofs.Text.Case

/-!
Which words spell which arguments, and which word is which keyword. Letter case never matters,
except that a color name is kept in small letters.
-/

namespace PenPlotter

namespace Argument

/-- The words that switch filling on, and those that switch it off. -/
def toggleWords : Bool → List String
  | true => ["on", "true", "1"]
  | false => ["off", "false", "0"]

/-- A word spells a finite number by a numeral, a color name by its letters, and a toggle by one
of its words.
-/
def Spells : (kind : ArgumentKind) → String → kind.Value → Prop
  | .number, word, x =>
      x.isFinite = true ∧ ∃ numeral, Numeral.read? word = some numeral ∧ numeral.toFloat = x
  | .colorName, word, name =>
      (∀ c ∈ word.toList, c.isAlpha = true)
      ∧ Text.AlikeButForCase word name
      ∧ ∀ c ∈ name.toList, c.isUpper = false
  | .toggle, word, enabled =>
      ∃ spelling ∈ toggleWords enabled, Text.AlikeButForCase spelling word

/-- A word is accepted by a kind when it spells some value of it. -/
def Accepts (kind : ArgumentKind) (word : String) : Prop :=
  ∃ value, Spells kind word value

end Argument

section

open Float.Model (UnpackedFloat)

/-- A floating-point number is finite unless its exponent field is all ones. -/
theorem isFinite_iff_exponent (x : Float)
    : x.isFinite = true ↔ x.toBits.toNat / 2 ^ 52 % 2 ^ 11 ≠ 2 ^ 11 - 1 := by
  have field
      : (@UnpackedFloat.unpackExponent .binary64 x.toBits.toBitVec).toNat
        = x.toBits.toNat / 2 ^ 52 % 2 ^ 11 := by
    change (x.toBits.toNat >>> 52) % 2 ^ 11 = _
    rw [Nat.shiftRight_eq_div_pow]
  have ones
      : @UnpackedFloat.unpackExponent .binary64 x.toBits.toBitVec = -1#11
        ↔ x.toBits.toNat / 2 ^ 52 % 2 ^ 11 = 2 ^ 11 - 1 := by
    rw [← BitVec.toNat_inj, field]
    rfl
  rw [ne_eq, ← ones]
  change (UnpackedFloat.unpack .binary64 x.toBits.toBitVec).isFinite = true ↔ _
  simp only [UnpackedFloat.unpack]
  split
  next full => split <;> exact iff_of_false Bool.false_ne_true (absurd full)
  next partly =>
    split
    · split <;> exact iff_of_true rfl partly
    · exact iff_of_true rfl partly

/-- The finite patterns are those below infinity, whose exponent field is the first to be all
ones.
-/
theorem BinaryFloat.isFinite_eq (x : Float) : BinaryFloat.isFinite x = x.isFinite := by
  rw [Bool.eq_iff_iff, isFinite_iff_exponent, BinaryFloat.isFinite, decide_eq_true_iff]
  change x.toBits.toNat % 2 ^ 63 < (2 ^ 11 - 1) * 2 ^ 52 ↔ _
  omega

end

namespace Argument

theorem number?_eq_some_iff {word : String} {x : Float}
    : number? word = some x ↔ Spells .number word x := by
  rw [number?, Option.filter_eq_some_iff, Option.map_eq_some_iff, BinaryFloat.isFinite_eq,
    and_comm, Spells]

theorem colorName?_eq_some_iff {word name : String}
    : colorName? word = some name ↔ Spells .colorName word name := by
  simp only [colorName?, Option.ite_none_right_eq_some, List.all_eq_true, Text.isLetter,
    Option.some.injEq, Text.foldCase_eq_iff, Spells]

/-- A word is among listed words but for case when it folds to one of them, since those have no
capitals.
-/
theorem foldCase_mem_toggleWords {word : String} {enabled : Bool}
    : Text.foldCase word ∈ toggleWords enabled ↔ Spells .toggle word enabled := by
  have small : ∀ spelling ∈ toggleWords enabled, Text.foldCase spelling = spelling := by
    cases enabled <;> decide
  rw [Spells]
  constructor
  · intro listed
    refine ⟨Text.foldCase word, listed, ?_⟩
    rw [← Text.foldCase_eq_foldCase_iff, Text.foldCase_foldCase]
  · intro spelled
    obtain ⟨spelling, listed, alike⟩ := spelled
    rw [← Text.foldCase_eq_foldCase_iff, small spelling listed] at alike
    rwa [← alike]

/-- The words for on are looked for first, and none of them is a word for off. -/
theorem toggle?_eq_some_iff {word : String} {enabled : Bool}
    : toggle? word = some enabled ↔ Spells .toggle word enabled := by
  have apart : ∀ spelling ∈ toggleWords false, spelling ∉ toggleWords true := by decide
  rw [← foldCase_mem_toggleWords]
  change (if (toggleWords true).contains (Text.foldCase word) then some true
    else if (toggleWords false).contains (Text.foldCase word) then some false
    else none) = some enabled ↔ _
  simp only [List.contains_iff_mem]
  split
  next on =>
    cases enabled with
    | true => simpa using on
    | false => simpa using fun off => apart _ off on
  next notOn =>
    cases enabled with
    | true => simpa using notOn
    | false => simp

theorem read?_eq_some_iff {kind : ArgumentKind} {word : String} {value : kind.Value}
    : read? kind word = some value ↔ Spells kind word value := by
  cases kind with
  | number => exact number?_eq_some_iff
  | colorName => exact colorName?_eq_some_iff
  | toggle => exact toggle?_eq_some_iff

end Argument

namespace Command

theorem ofKeyword?_keyword (command : Command)
    : ofKeyword? command.keyword = some command := by
  cases command <;> rfl

/-- A word is looked up as the one command whose keyword it is but for case. Words that agree but
for case are looked up alike, and each keyword is found as its own command.
-/
theorem ofKeyword?_eq_some_iff {word : String} {command : Command}
    : ofKeyword? word = some command ↔ Text.AlikeButForCase command.keyword word := by
  constructor
  · intro found
    rw [ofKeyword?, List.find?_eq_some_iff_append] at found
    exact Text.spelledAlike_iff.mp found.1
  · intro alike
    have folded := Text.foldCase_eq_foldCase_iff.mpr alike
    have same : ofKeyword? word = ofKeyword? command.keyword := by
      unfold ofKeyword? Text.spelledAlike
      rw [folded]
    rw [same, ofKeyword?_keyword]

end Command

end PenPlotter
