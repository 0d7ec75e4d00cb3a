import PenPlotter.Number.Decimal

/-!
The shortest decimal that reads back as a given floating-point number. The multiples of a power
of ten form a grid. On the coarsest grid with a point that reads back, the point nearest to the
exact value is chosen, and of two equally near ones the larger. Some grid holds the exact value
itself, so the search always ends with a decimal that reads back.
-/

namespace PenPlotter.Shortest

/-- A grid point reads back when it rounds to the given magnitude. -/
def readsBack (f : BinaryFormat) (magnitude point : Nat) (grid : Int) : Bool :=
  (Decimal.mk point grid).nearest f = magnitude

/-- Of the two points of a grid around the exact value, the nearer one that reads back. -/
def pick? (f : BinaryFormat) (magnitude : Nat) (grid : Int) : Option Nat :=
  let exact := (f.value magnitude).inUnits 10 grid
  let below := exact.floor
  match readsBack f magnitude below grid, readsBack f magnitude (below + 1) grid with
  | true, true => some (if exact.compareHalf = .lt then below else below + 1)
  | true, false => some below
  | false, true => some (below + 1)
  | false, false => none

/-- The first grid of a number of finer and finer ones that has a point. On the last grid the
exact value is a point, and is taken without trying.
-/
def search (f : BinaryFormat) (magnitude : Nat) : Nat → Int → Decimal
  | 0, grid => ⟨((f.value magnitude).inUnits 10 grid).floor, grid⟩
  | tries + 1, grid =>
      match pick? f magnitude grid with
      | some point => ⟨point, grid⟩
      | none => search f magnitude tries (grid - 1)

/-- A grid no finer than the value itself, from the number of its binary places. The logarithm
of two to base ten is a little below 0.30103.
-/
def coarsestGrid (f : BinaryFormat) (magnitude : Nat) : Int :=
  ((f.significand magnitude).log2 + 1 + f.exponent magnitude) * 30103 / 100000 + 2

/-- A grid that holds the exact value: the ones, or a power of ten for each binary place. -/
def finestGrid (f : BinaryFormat) (magnitude : Nat) : Int :=
  min 0 (f.exponent magnitude)

/-- The shortest decimal that rounds to a finite magnitude. -/
def decimal (f : BinaryFormat) (magnitude : Nat) : Decimal :=
  if magnitude = 0 then ⟨0, 0⟩
  else
    search f magnitude (coarsestGrid f magnitude - finestGrid f magnitude).toNat
      (coarsestGrid f magnitude)

end PenPlotter.Shortest
