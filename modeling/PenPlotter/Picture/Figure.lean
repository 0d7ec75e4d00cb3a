import PenPlotter.Number.Text
import PenPlotter.Picture.Color
import PenPlotter.Picture.Geometry

/-!
What is drawn on the sheet: figures in absolute coordinates that carry their own color and
filling, and the wiping of the sheet, which takes its place in the order of drawing like any
figure.
-/

namespace PenPlotter

/-- One act of drawing, complete in itself. -/
inductive Figure where
  | line (source target : Point) (color : Color)
  | rectangle (box : Box) (color : Color) (filled : Bool)
  | ellipse (box : Box) (color : Color) (filled : Bool)
  | polygon (vertices : List Point) (color : Color) (filled : Bool)
  | wipe
deriving DecidableEq, Repr

namespace Figure

/-- The word for each kind of figure. -/
def name : Figure → String
  | .line .. => "line"
  | .rectangle .. => "rectangle"
  | .ellipse .. => "ellipse"
  | .polygon .. => "polygon"
  | .wipe => "clear"

/-- The color of a figure. Wiping has none. -/
def color? : Figure → Option Color
  | .line _ _ color | .rectangle _ color _ | .ellipse _ color _ | .polygon _ color _ => some color
  | .wipe => none

/-- Only a figure that encloses something can be filled. -/
def isFilled : Figure → Bool
  | .rectangle _ _ filled | .ellipse _ _ filled | .polygon _ _ filled => filled
  | .line .. | .wipe => false

/-- Wiping the sheet is told apart from all figures. -/
def isWipe : Figure → Bool
  | .wipe => true
  | _ => false

/-- The vertices along a figure. An ellipse is followed in a number of segments, at least three;
boxes are taken in their normal form.
-/
def outline (segments : Nat) : Figure → List Point
  | .line source target _ => [source, target]
  | .rectangle box _ _ => box.normalized.corners
  | .ellipse box _ _ => box.normalized.ellipsePoints (max segments 3)
  | .polygon vertices _ _ => vertices
  | .wipe => []

end Figure

def Point.text (p : Point) : String :=
  "(" ++ BinaryFloat.text p.x ++ ", " ++ BinaryFloat.text p.y ++ ")"

/-- A box as its corner and its extents. -/
def Box.text (box : Box) : String :=
  Point.text ⟨box.x, box.y⟩ ++ " " ++ BinaryFloat.text box.width ++ "x"
    ++ BinaryFloat.text box.height

namespace Figure

/-- The color and the filling that end the text of a figure. -/
def styleText (color : Color) (filled : Bool) : String :=
  " " ++ color.text ++ if filled then " filled" else ""

/-- A figure in one line. -/
def text : Figure → String
  | .line source target color =>
      "line " ++ source.text ++ " -> " ++ target.text ++ styleText color false
  | .rectangle box color filled => "rectangle " ++ box.text ++ styleText color filled
  | .ellipse box color filled => "ellipse " ++ box.text ++ styleText color filled
  | .polygon vertices color filled =>
      "polygon [" ++ ", ".intercalate (vertices.map Point.text) ++ "]" ++ styleText color filled
  | .wipe => "clear"

end Figure

end PenPlotter
