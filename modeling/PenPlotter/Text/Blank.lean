/-!
Blank characters are those with the Unicode property White_Space. A text is trimmed by taking
the blanks off both of its ends, and a text of blanks alone trims to nothing.
-/

namespace PenPlotter.Text

/-- The code points with the property White_Space, as ranges with both ends included. -/
def blankRanges : List (Nat × Nat) :=
  [(0x09, 0x0D), (0x20, 0x20), (0x85, 0x85), (0xA0, 0xA0), (0x1680, 0x1680), (0x2000, 0x200A),
    (0x2028, 0x2029), (0x202F, 0x202F), (0x205F, 0x205F), (0x3000, 0x3000)]

/-- A character is blank when one of the ranges holds its code point. -/
def isBlank (c : Char) : Bool :=
  blankRanges.any fun range => range.1 ≤ c.toNat && c.toNat ≤ range.2

/-- No blank lies between the first and the last of the visible characters of ASCII. -/
theorem isBlank_eq_false {c : Char} (least : 33 ≤ c.toNat) (greatest : c.toNat ≤ 126)
    : isBlank c = false := by
  have outside : ∀ range ∈ blankRanges, range.2 < 33 ∨ 126 < range.1 := by decide
  rw [isBlank, List.any_eq_false]
  intro range member
  have beyond := outside range member
  simp only [Bool.and_eq_true, decide_eq_true_eq]
  omega

/-- Trimming drops the leading blanks, and the trailing ones through a reversal. -/
def trimChars (chars : List Char) : List Char :=
  ((chars.dropWhile isBlank).reverse.dropWhile isBlank).reverse

def trim (text : String) : String :=
  String.ofList (trimChars text.toList)

end PenPlotter.Text
