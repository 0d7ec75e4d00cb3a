import PenPlotter.Number.Shortest

/-!
How numbers are written: with the fewest digits that read back, never with an exponent, and with
a point only before digits that are not zero. Zero keeps its sign.
-/

namespace PenPlotter

/-- A decimal in positional notation. Zeros fill the places up to the point on either side. -/
def Decimal.positional (d : Decimal) : List Char :=
  let digits := Nat.toDigits 10 d.coefficient
  if 0 ≤ d.exponent then digits ++ List.replicate d.exponent.toNat '0'
  else
    let places := (-d.exponent).toNat
    if places < digits.length then
      digits.take (digits.length - places) ++ '.' :: digits.drop (digits.length - places)
    else '0' :: '.' :: (List.replicate (places - digits.length) '0' ++ digits)

namespace BinaryFloat

variable {α : Type} [BinaryFloat α]

/-- The characters of a number without its sign. -/
def magnitudeChars (x : α) : List Char :=
  if isFinite x then (Shortest.decimal (format α) (magnitude x)).positional else "inf".toList

/-- The text of a number. What is no number has one text, whatever its sign bit. -/
def text (x : α) : String :=
  if isNaN x then "NaN"
  else String.ofList (if isNegative x then '-' :: magnitudeChars x else magnitudeChars x)

end BinaryFloat

end PenPlotter
