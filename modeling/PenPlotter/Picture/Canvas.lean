import PenPlotter.Picture.Figure

/-!
A canvas takes one call for each kind of figure and one that wipes it. What it does with a call
is its own affair. A handle stands for the canvas behind it and passes every call on.
-/

namespace PenPlotter

universe u

/-- The calls that a canvas takes. Each gives the canvas as it is afterwards. -/
class Canvas (κ : Type u) where
  drawLine (source target : Point) (color : Color) : κ → κ
  drawRectangle (box : Box) (color : Color) (filled : Bool) : κ → κ
  drawEllipse (box : Box) (color : Color) (filled : Bool) : κ → κ
  drawPolygon (vertices : List Point) (color : Color) (filled : Bool) : κ → κ
  wipe : κ → κ

namespace Canvas

variable {κ : Type u} [Canvas κ]

/-- Drawing a figure is the call for its kind. -/
def draw : Figure → κ → κ
  | .line source target color => drawLine source target color
  | .rectangle box color filled => drawRectangle box color filled
  | .ellipse box color filled => drawEllipse box color filled
  | .polygon vertices color filled => drawPolygon vertices color filled
  | .wipe => wipe

/-- Replaying figures draws them one after another. -/
def replay (figures : List Figure) (canvas : κ) : κ :=
  figures.foldl (fun canvas figure => draw figure canvas) canvas

@[simp]
theorem replay_nil (canvas : κ) : replay [] canvas = canvas :=
  rfl

@[simp]
theorem replay_cons (figure : Figure) (figures : List Figure) (canvas : κ)
    : replay (figure :: figures) canvas = replay figures (draw figure canvas) :=
  rfl

/-- Replaying goes on where it left off, by the fold over a concatenation. -/
theorem replay_append (first second : List Figure) (canvas : κ)
    : replay (first ++ second) canvas = replay second (replay first canvas) :=
  List.foldl_append

structure Handle (κ : Type u) where
  target : κ
deriving DecidableEq, Repr

instance : Canvas (Handle κ) where
  drawLine source target color handle := ⟨drawLine source target color handle.target⟩
  drawRectangle box color filled handle := ⟨drawRectangle box color filled handle.target⟩
  drawEllipse box color filled handle := ⟨drawEllipse box color filled handle.target⟩
  drawPolygon vertices color filled handle := ⟨drawPolygon vertices color filled handle.target⟩
  wipe handle := ⟨wipe handle.target⟩

/-- Behind a handle the canvas itself is drawn on, by cases on the figure. -/
@[simp]
theorem target_draw (figure : Figure) (handle : Handle κ)
    : (draw figure handle).target = draw figure handle.target := by
  cases figure <;> rfl

end Canvas

end PenPlotter
