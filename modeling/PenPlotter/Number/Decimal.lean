import PenPlotter.Number.BinaryFormat

/-!
Decimal numbers as they are written: a natural coefficient and a power of ten. Reading accepts
an optional sign, digits with an optional point among or around them, and an optional exponent,
and gives the floating-point number nearest to the exact value.
-/

namespace PenPlotter

/-- The number `coefficient * 10 ^ exponent`. -/
structure Decimal where
  coefficient : Nat
  exponent : Int
deriving DecidableEq, Repr

namespace Decimal

def ratio (d : Decimal) : Ratio :=
  .scaled d.coefficient 10 d.exponent

/-- The nearest magnitude of a format. Exponents so large or so small that the coefficient no
longer matters are decided without forming the power of ten.
-/
def nearest (f : BinaryFormat) (d : Decimal) : Nat :=
  if d.coefficient = 0 then 0
  else if Nat.pow 2 f.exponentBits < d.exponent then f.infinity
  else if d.exponent + Nat.pow 2 f.exponentBits + d.coefficient.log2 < 0 then 0
  else f.nearest d.ratio

end Decimal

/-- A decimal number with its sign, which zero keeps. -/
structure Numeral where
  negative : Bool
  decimal : Decimal
deriving DecidableEq, Repr

namespace Numeral

/-- An optional sign in front. -/
def takeSign : List Char → Bool × List Char
  | '-' :: rest => (true, rest)
  | '+' :: rest => (false, rest)
  | chars => (false, chars)

/-- The exponent that ends a numeral: nothing, or the letter e, an optional sign and digits. -/
def readExponent? : List Char → Option Int
  | [] => some 0
  | c :: rest =>
      let (negative, digits) := takeSign rest
      if (c = 'e' || c = 'E') && digits != [] && digits.all Char.isDigit then
        let size : Int := Nat.ofDigitChars 10 digits 0
        some (if negative then -size else size)
      else none

/-- The digits after an optional point, and the rest. -/
def takeFraction : List Char → List Char × List Char
  | '.' :: rest => (rest.takeWhile Char.isDigit, rest.dropWhile Char.isDigit)
  | rest => ([], rest)

/-- The numeral that a whole list of characters spells, if it does. At least one digit must
stand before the exponent, on either side of the point.
-/
def readChars? (chars : List Char) : Option Numeral :=
  let (negative, unsigned) := takeSign chars
  let whole := unsigned.takeWhile Char.isDigit
  let (fraction, rest) := takeFraction (unsigned.dropWhile Char.isDigit)
  if whole ++ fraction = [] then none
  else
    (readExponent? rest).map fun exponent =>
      ⟨negative, Nat.ofDigitChars 10 (whole ++ fraction) 0, exponent - fraction.length⟩

/-- The numeral that a text spells, if it does. -/
def read? (text : String) : Option Numeral :=
  readChars? text.toList

def toFloat {α : Type} [BinaryFloat α] (n : Numeral) : α :=
  BinaryFloat.ofMagnitude n.negative (n.decimal.nearest (BinaryFloat.format α))

end Numeral

end PenPlotter
