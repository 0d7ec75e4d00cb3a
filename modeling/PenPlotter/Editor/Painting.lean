import PenPlotter.Number.BinaryFormat
import PenPlotter.Picture.Figure

/-!
Painting turns figures into shapes on the screen. Screen coordinates are single precision: each
coordinate of a figure is rounded first and moved by the corner of the painted area afterwards.
Every shape is clipped to the part of the area that is on the screen.
-/

namespace PenPlotter

structure ScreenPoint where
  x : Float32
  y : Float32
deriving DecidableEq, Repr

/-- A rectangle on the screen between two corners. It is inside out when the lower right corner
is not below and to the right of the upper left one.
-/
structure ScreenArea where
  upperLeft : ScreenPoint
  lowerRight : ScreenPoint
deriving DecidableEq, Repr

namespace ScreenArea

def ofCorner (x y width height : Float32) : ScreenArea :=
  ⟨⟨x, y⟩, ⟨x + width, y + height⟩⟩

/-- The greater of two numbers, or the one that is a number. -/
def greater (a b : Float32) : Float32 :=
  if a < b || BinaryFloat.isNaN a then b else a

/-- The smaller of two numbers, or the one that is a number. -/
def smaller (a b : Float32) : Float32 :=
  if b < a || BinaryFloat.isNaN a then b else a

/-- The common part of two rectangles, inside out when there is none. -/
def intersect (a b : ScreenArea) : ScreenArea :=
  ⟨⟨greater a.upperLeft.x b.upperLeft.x, greater a.upperLeft.y b.upperLeft.y⟩,
    ⟨smaller a.lowerRight.x b.lowerRight.x, smaller a.lowerRight.y b.lowerRight.y⟩⟩

end ScreenArea

structure Ink where
  color : Color
  opacity : UInt8
deriving DecidableEq, Repr

namespace Ink

/-- A color that hides what is behind it. -/
def solid (color : Color) : Ink :=
  ⟨color, 255⟩

def transparent : Ink :=
  ⟨.black, 0⟩

end Ink

/-- The geometry of a shape with the ink it is filled with. -/
inductive ShapeForm where
  | area (bounds : ScreenArea) (fill : Ink)
  | segment (source target : ScreenPoint) (width : Float32) (stroke : Ink)
  | closedPath (points : List ScreenPoint) (fill : Ink) (width : Float32) (stroke : Ink)
deriving DecidableEq, Repr

/-- A shape that is shown inside its clip only. -/
structure Shape where
  form : ShapeForm
  clip : ScreenArea
deriving DecidableEq, Repr

namespace Painting

def penWidth : Float32 :=
  1.5

/-- The number of segments that stand for an ellipse. -/
def ellipseSegments : Nat :=
  64

/-- A point of the sheet on the screen, for a sheet whose corner is given. -/
def toScreen (corner : ScreenPoint) (p : Point) : ScreenPoint :=
  ⟨corner.x + BinaryFloat.convert p.x, corner.y + BinaryFloat.convert p.y⟩

/-- The form in which a figure is painted. A wipe is not painted, nor is a polygon that encloses
nothing for want of a third vertex.
-/
def form? (corner : ScreenPoint) (figure : Figure) : Option ShapeForm :=
  let points := (figure.outline ellipseSegments).map (toScreen corner)
  match figure.color?, figure, points with
  | none, _, _ => none
  | some color, .line .., [source, target] =>
      some (.segment source target penWidth (.solid color))
  | some _, .line .., _ => none
  | some color, _, points =>
      if points.length < 3 then none
      else
        let fill := if figure.isFilled then Ink.solid color else .transparent
        some (.closedPath points fill penWidth (.solid color))

/-- The shapes that paint figures on a background into an area of the screen. -/
def paint (screen area : ScreenArea) (background : Color) (figures : List Figure) : List Shape :=
  let clip := area.intersect screen
  ⟨.area area (.solid background), clip⟩ ::
    (figures.filterMap (form? area.upperLeft)).map fun form => ⟨form, clip⟩

end Painting

end PenPlotter
