import PenPlotter.Picture.Canvas

/-!
A recording is a canvas that keeps every call as a figure, in order. Figures before the last wipe
can no longer be seen, and may be dropped without changing what is visible.
-/

namespace PenPlotter

/-- The figures drawn so far, wipes included. The newest stands first, where the next one is
put.
-/
structure Recording where
  newestFirst : List Figure := []
deriving DecidableEq, Repr

namespace Recording

def push (recording : Recording) (figure : Figure) : Recording :=
  ⟨figure :: recording.newestFirst⟩

instance : Canvas Recording where
  drawLine source target color recording := recording.push (.line source target color)
  drawRectangle box color filled recording := recording.push (.rectangle box color filled)
  drawEllipse box color filled recording := recording.push (.ellipse box color filled)
  drawPolygon vertices color filled recording := recording.push (.polygon vertices color filled)
  wipe recording := recording.push .wipe

/-- The figures in the order in which they were drawn. -/
def figures (recording : Recording) : List Figure :=
  recording.newestFirst.reverse

@[simp]
theorem figures_push (recording : Recording) (figure : Figure)
    : (recording.push figure).figures = recording.figures ++ [figure] := by
  simp [push, figures]

/-- Every call is kept as its figure, by cases on the figure. -/
@[simp]
theorem draw_eq_push (recording : Recording) (figure : Figure)
    : Canvas.draw figure recording = recording.push figure := by
  cases figure <;> rfl

/-- Figures that are replayed into a recording come after those it held, by induction on
them.
-/
theorem figures_replay (more : List Figure) (recording : Recording)
    : (Canvas.replay more recording).figures = recording.figures ++ more := by
  induction more generalizing recording with
  | nil => simp
  | cons figure rest ih => simp [ih]

def length (recording : Recording) : Nat :=
  recording.newestFirst.length

/-- No figure has been recorded, or none is left. -/
def isEmpty (recording : Recording) : Bool :=
  recording.newestFirst.isEmpty

/-- All figures, and the recording that is left when they are taken out. -/
def takeAll (recording : Recording) : List Figure × Recording :=
  (recording.figures, {})

/-- The figures drawn after the last wipe, or all of them when the sheet was never wiped. -/
def visible (recording : Recording) : List Figure :=
  (recording.newestFirst.takeWhile fun figure => !figure.isWipe).reverse

/-- The last wipe and the figures before it, newest first. -/
def upToWipe (recording : Recording) : List Figure :=
  recording.newestFirst.dropWhile fun figure => !figure.isWipe

/-- The number of figures before the last wipe. -/
def hiddenCount (recording : Recording) : Nat :=
  recording.upToWipe.length - 1

/-- A recording without the figures before the last wipe. The wipe itself stays. -/
def dropHidden (recording : Recording) : Recording :=
  ⟨(recording.newestFirst.takeWhile fun figure => !figure.isWipe) ++ recording.upToWipe.take 1⟩

end Recording

end PenPlotter
