import PenPlotter.Picture.Color
import PenPlotter.Picture.Geometry

/-!
The pen carries from one instruction to the next all that later instructions depend on: where it
is, its color, and whether shapes are filled.
-/

namespace PenPlotter

/-- The state of the pen. At first it rests at the origin, is black and does not fill. -/
structure Pen where
  position : Point := .origin
  color : Color := .black
  fill : Bool := false
deriving DecidableEq, Repr

namespace Pen

/-- A pen at rest has the settings that it starts with, compared as numbers: either zero will
do.
-/
def isAtRest (pen : Pen) : Bool :=
  pen.position.x == 0 && pen.position.y == 0 && pen.color = .black && !pen.fill

/-- The word for whether shapes are filled, which is also the word that sets it. -/
def fillWord (pen : Pen) : String :=
  if pen.fill then "on" else "off"

end Pen

end PenPlotter
