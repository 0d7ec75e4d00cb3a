import PenPlotter.Number.Ratio

/-!
Binary floating-point numbers, seen through their bit patterns. Without its sign, the pattern of
a nonnegative number is a natural number, its *magnitude*: zero is 0, the numbers that follow one
another have magnitudes that follow one another, and infinity comes after all finite numbers.
So rounding an exact value is choosing a magnitude, and carries and overflow need no case of
their own.
-/

namespace PenPlotter

/-- The widths of the two fields below the sign bit. -/
structure BinaryFormat where
  fractionBits : Nat
  exponentBits : Nat
deriving DecidableEq, Repr

namespace BinaryFormat

def binary64 : BinaryFormat :=
  ⟨52, 11⟩

def binary32 : BinaryFormat :=
  ⟨23, 8⟩

/-- The number of magnitudes between one power of two and the next. -/
def step (f : BinaryFormat) : Nat :=
  Nat.pow 2 f.fractionBits

/-- The magnitude of infinity; all larger ones are no number. -/
def infinity (f : BinaryFormat) : Nat :=
  (Nat.pow 2 f.exponentBits - 1) * f.step

def signWeight (f : BinaryFormat) : Nat :=
  Nat.pow 2 (f.fractionBits + f.exponentBits)

/-- The exponent of the last place of the smallest numbers. -/
def leastExponent (f : BinaryFormat) : Int :=
  2 - Nat.pow 2 (f.exponentBits - 1) - f.fractionBits

/-- The significand of a finite magnitude. Below the first power of two that is normal there is
no implicit leading bit.
-/
def significand (f : BinaryFormat) (magnitude : Nat) : Nat :=
  if magnitude / f.step = 0 then magnitude else magnitude % f.step + f.step

/-- The exponent of the last place of a finite magnitude. The first two exponent fields share
the least one.
-/
def exponent (f : BinaryFormat) (magnitude : Nat) : Int :=
  f.leastExponent + (magnitude / f.step - 1 : Nat)

def value (f : BinaryFormat) (magnitude : Nat) : Ratio :=
  .scaled (f.significand magnitude) 2 (f.exponent magnitude)

/-- The exponent of the last place that a positive quotient is rounded at. -/
def lastPlace (f : BinaryFormat) (r : Ratio) : Int :=
  max (r.floorLog2 - f.fractionBits) f.leastExponent

/-- The magnitude nearest to a quotient, of two equally near the one with the even significand.
A significand that rounds up to the next power of two carries into the exponent, and a value
beyond the finite range becomes infinity.
-/
def nearest (f : BinaryFormat) (r : Ratio) : Nat :=
  if r.num = 0 then 0
  else
    let place := f.lastPlace r
    min ((place - f.leastExponent).toNat * f.step + (r.inUnits 2 place).roundHalfEven) f.infinity

end BinaryFormat

/-- A type of floating-point numbers whose values are the bit patterns of a binary format, up to
the patterns that are no number.
-/
class BinaryFloat (α : Type) where
  format : BinaryFormat
  toPattern : α → Nat
  ofPattern : Nat → α

instance : BinaryFloat Float where
  format := .binary64
  toPattern x := x.toBits.toNat
  ofPattern n := .ofBits n.toUInt64

instance : BinaryFloat Float32 where
  format := .binary32
  toPattern x := x.toBits.toNat
  ofPattern n := .ofBits n.toUInt32

namespace BinaryFloat

variable {α β : Type} [BinaryFloat α] [BinaryFloat β]

/-- The pattern without its sign. -/
def magnitude (x : α) : Nat :=
  toPattern x % (format α).signWeight

/-- The sign bit, which zero has too. -/
def isNegative (x : α) : Bool :=
  (format α).signWeight ≤ toPattern x

/-- Neither infinite nor no number. -/
def isFinite (x : α) : Bool :=
  magnitude x < (format α).infinity

/-- A pattern beyond both infinities. -/
def isNaN (x : α) : Bool :=
  (format α).infinity < magnitude x

def ofMagnitude (negative : Bool) (magnitude : Nat) : α :=
  ofPattern (if negative then (format α).signWeight + magnitude else magnitude)

/-- The nearest number to a signed quotient. The sign of a quotient that rounds to zero stays. -/
def ofRatio (negative : Bool) (r : Ratio) : α :=
  ofMagnitude negative ((format α).nearest r)

def ofNat (n : Nat) : α :=
  ofRatio false ⟨n, 1⟩

/-- A number of one format as the nearest one of another. Infinities and no number keep their
kind, and the sign stays.
-/
def convert (x : α) : β :=
  if isNaN x then ofMagnitude false ((format β).infinity + 1)
  else if isFinite x then ofRatio (isNegative x) ((format α).value (magnitude x))
  else ofMagnitude (isNegative x) (format β).infinity

end BinaryFloat

end PenPlotter
