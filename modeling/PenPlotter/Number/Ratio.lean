/-!
Nonnegative quotients of natural numbers. Numerals and floating-point numbers are compared
through their exact values, and those are such quotients: a coefficient times a power of ten or
of two.
-/

namespace PenPlotter

/-- An exact nonnegative quotient. -/
structure Ratio where
  num : Nat
  den : Nat
deriving DecidableEq, Repr

namespace Ratio

/-- The quotient `coefficient * base ^ exponent`. A negative exponent divides. -/
def scaled (coefficient base : Nat) (exponent : Int) : Ratio :=
  if 0 ≤ exponent then ⟨coefficient * base.pow exponent.toNat, 1⟩
  else ⟨coefficient, base.pow (-exponent).toNat⟩

/-- A quotient counted in units of `base ^ exponent`. -/
def inUnits (r : Ratio) (base : Nat) (exponent : Int) : Ratio :=
  if 0 ≤ exponent then ⟨r.num, r.den * base.pow exponent.toNat⟩
  else ⟨r.num * base.pow (-exponent).toNat, r.den⟩

def floor (r : Ratio) : Nat :=
  r.num / r.den

/-- Twice the distance to the whole part, against one unit: `lt` lies nearer to the whole part,
`gt` nearer to its successor, and `eq` halfway.
-/
def compareHalf (r : Ratio) : Ordering :=
  compare (2 * (r.num % r.den)) r.den

/-- The nearest natural number, of two equally near the even one. -/
def roundHalfEven (r : Ratio) : Nat :=
  match r.compareHalf with
  | .lt => r.floor
  | .eq => r.floor + r.floor % 2
  | .gt => r.floor + 1

/-- The exponent of the greatest power of two that is not above a positive quotient. The sizes
of numerator and denominator leave two candidates, and one comparison decides between them.
-/
def floorLog2 (r : Ratio) : Int :=
  let guess : Int := r.num.log2 - r.den.log2
  if (r.inUnits 2 guess).floor = 0 then guess - 1 else guess

end Ratio

end PenPlotter
