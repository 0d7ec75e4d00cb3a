import PenPlotter.Language.Command
import PenPlotter.Number.Decimal

/-!
Arguments and the words that spell them. Each kind of argument has its own type of values, and
the arguments of a signature are one value for each of its kinds.
-/

namespace PenPlotter

namespace ArgumentKind

/-- The values of a kind of argument. -/
@[reducible] def Value : ArgumentKind → Type
  | .number => Float
  | .colorName => String
  | .toggle => Bool

end ArgumentKind

namespace Argument

/-- A number is a numeral whose nearest floating-point number is finite. -/
def number? (word : String) : Option Float :=
  ((Numeral.read? word).map Numeral.toFloat).filter BinaryFloat.isFinite

/-- A color name has letters only and is kept in small letters. Whether it names a color is not
asked here.
-/
def colorName? (word : String) : Option String :=
  if word.toList.all Text.isLetter then some (Text.foldCase word) else none

/-- The words for on and off, in any letter case. -/
def toggle? (word : String) : Option Bool :=
  let spelled := Text.foldCase word
  if ["on", "true", "1"].contains spelled then some true
  else if ["off", "false", "0"].contains spelled then some false
  else none

/-- The value that a word spells as an argument of a given kind. -/
def read? : (kind : ArgumentKind) → String → Option kind.Value
  | .number, word => number? word
  | .colorName, word => colorName? word
  | .toggle, word => toggle? word

end Argument

/-- One value for each kind in a list. -/
@[reducible] def Arguments : List ArgumentKind → Type
  | [] => Unit
  | kind :: kinds => kind.Value × Arguments kinds

end PenPlotter
