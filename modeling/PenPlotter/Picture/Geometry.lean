/-!
Points and boxes on the sheet. Abscissas grow to the right and ordinates downward, from the
origin in the upper left corner. A box may extend to the left or upward, by a negative width or
height; its normal form extends to the right and downward.
-/

namespace PenPlotter

structure Point where
  x : Float
  y : Float
deriving DecidableEq, Repr

namespace Point

/-- The upper left corner of the sheet. -/
def origin : Point :=
  ⟨0, 0⟩

end Point

/-- A box with sides along the axes, from one corner to the opposite one. -/
structure Box where
  x : Float
  y : Float
  width : Float
  height : Float
deriving DecidableEq, Repr

namespace Box

/-- The box that a circle touches on all four sides. -/
def around (center : Point) (radius : Float) : Box :=
  ⟨center.x - radius, center.y - radius, 2 * radius, 2 * radius⟩

/-- The point halfway along both sides. -/
def center (box : Box) : Point :=
  ⟨box.x + box.width / 2, box.y + box.height / 2⟩

/-- An interval given by its start and its extent, with an extent that is not negative. -/
def normalizeSpan (start extent : Float) : Float × Float :=
  if extent < 0 then (start + extent, -extent) else (start, extent)

/-- The same box with extents that are not negative. -/
def normalized (box : Box) : Box :=
  let (x, width) := normalizeSpan box.x box.width
  let (y, height) := normalizeSpan box.y box.height
  ⟨x, y, width, height⟩

/-- The four corners of a box, clockwise from its start. -/
def corners (box : Box) : List Point :=
  [⟨box.x, box.y⟩, ⟨box.x + box.width, box.y⟩, ⟨box.x + box.width, box.y + box.height⟩,
    ⟨box.x, box.y + box.height⟩]

def turn : Float :=
  6.283185307179586

/-- Points on the ellipse inside a box, at equal steps of one turn. -/
def ellipsePoints (box : Box) (count : Nat) : List Point :=
  (List.range count).map fun i =>
    let angle := i.toFloat / count.toFloat * turn
    ⟨box.center.x + box.width / 2 * angle.cos, box.center.y + box.height / 2 * angle.sin⟩

end Box

end PenPlotter
