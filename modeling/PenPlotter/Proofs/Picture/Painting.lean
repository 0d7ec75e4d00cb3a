import PenPlotter.Editor.Painting
import PenPlotter.Proofs.Plotting.Values

/-!
What is painted. After the background there is one shape for each figure, in order, but for wipes
and for polygons that enclose nothing. In a session driven by texts no such figure is ever
visible, so nothing that a program draws is left out.
-/

namespace PenPlotter

/-- Whether a figure is painted: any but a wipe, and a polygon if it has three vertices. -/
def Figure.isPainted : Figure → Bool
  | .wipe => false
  | .polygon vertices _ _ => 3 ≤ vertices.length
  | .line .. | .rectangle .. | .ellipse .. => true

namespace Painting

/-- What stands for a figure on the screen. A line is a segment. Any other figure is a closed path
along its outline, stroked in its color, and filled with it when the figure is filled. Points are
rounded to single precision and then moved by the corner of the painted area.
-/
inductive Depicts (corner : ScreenPoint) : Figure → ShapeForm → Prop
  | line (source target : Point) (color : Color)
    : Depicts corner (.line source target color)
        (.segment
          ⟨corner.x + BinaryFloat.convert source.x, corner.y + BinaryFloat.convert source.y⟩
          ⟨corner.x + BinaryFloat.convert target.x, corner.y + BinaryFloat.convert target.y⟩
          1.5 (.solid color))
  | path {figure : Figure} {color : Color}
    (notLine : ∀ source target color, figure ≠ .line source target color)
    (colored : figure.color? = some color)
    : Depicts corner figure
        (.closedPath
          ((figure.outline 64).map fun vertex =>
            ⟨corner.x + BinaryFloat.convert vertex.x,
              corner.y + BinaryFloat.convert vertex.y⟩)
          (if figure.isFilled then .solid color else .transparent) 1.5 (.solid color))

-----------------------------------------------------------------------------------------
-- One figure
-----------------------------------------------------------------------------------------

/-- The outline of a figure has two, four or sixty-four vertices, or those of the polygon, so it
encloses something when the figure is painted and no line.
-/
theorem three_le_length_outline {figure : Figure} (painted : figure.isPainted = true)
    (notLine : ∀ source target color, figure ≠ .line source target color)
    : 3 ≤ (figure.outline 64).length := by
  cases figure with
  | line source target color => exact absurd rfl (notLine source target color)
  | rectangle box color filled => simp [Figure.outline, Box.corners]
  | ellipse box color filled => simp [Figure.outline, Box.ellipsePoints]
  | polygon vertices color filled => exact of_decide_eq_true painted
  | wipe => cases painted

/-- A figure that is no line is painted along its outline, if that encloses something. -/
theorem form?_of_not_line {corner : ScreenPoint} {figure : Figure} {color : Color}
    (notLine : ∀ source target color, figure ≠ .line source target color)
    (colored : figure.color? = some color)
    : form? corner figure
      = if (figure.outline 64).length < 3 then none
        else
          some
            (.closedPath ((figure.outline 64).map (toScreen corner))
              (if figure.isFilled then .solid color else .transparent) penWidth
              (.solid color)) := by
  cases figure with
  | line source target color => exact absurd rfl (notLine source target color)
  | rectangle | ellipse | polygon =>
      obtain rfl := Option.some.inj colored
      simp only [form?, Figure.color?, List.length_map, ellipseSegments]
  | wipe => cases colored

/-- A figure is painted as what depicts it, or is not painted at all. By cases on the figure. -/
theorem form?_cases (corner : ScreenPoint) (figure : Figure)
    : (figure.isPainted = false ∧ form? corner figure = none)
      ∨ (figure.isPainted = true
        ∧ ∃ form, form? corner figure = some form ∧ Depicts corner figure form) := by
  cases known : figure.color? with
  | none =>
      cases figure <;> cases known
      exact Or.inl ⟨rfl, rfl⟩
  | some color =>
      by_cases isLine : ∃ source target color, figure = .line source target color
      · obtain ⟨source, target, color, rfl⟩ := isLine
        exact Or.inr ⟨rfl, _, rfl, .line source target color⟩
      · have notLine : ∀ source target color, figure ≠ .line source target color := by
          intro source target color same
          exact isLine ⟨source, target, color, same⟩
        rw [form?_of_not_line notLine known]
        cases painted : figure.isPainted with
        | true =>
            have enough := three_le_length_outline painted notLine
            exact Or.inr ⟨rfl, _, if_neg (Nat.not_lt.mpr enough), .path notLine known⟩
        | false =>
            refine Or.inl ⟨rfl, if_pos ?_⟩
            cases figure <;> simp_all [Figure.isPainted, Figure.outline, Figure.color?]

-----------------------------------------------------------------------------------------
-- All figures
-----------------------------------------------------------------------------------------

/-- The figures that are painted give one shape each, by induction on the figures. -/
theorem forms_depict (corner : ScreenPoint) (figures : List Figure)
    : List.Forall₂ (Depicts corner) (figures.filter Figure.isPainted)
        (figures.filterMap (form? corner)) := by
  induction figures with
  | nil => exact .nil
  | cons figure figures ih =>
      rw [List.filter_cons, List.filterMap_cons]
      rcases form?_cases corner figure with ⟨skipped, none⟩ | ⟨painted, form, some, depicts⟩
      · rw [skipped, none]
        exact ih
      · rw [painted, some]
        exact .cons depicts ih

/-- In a session driven by texts every visible figure is painted: none is a wipe, and polygons are
triangles. Drops only cut what is recorded.
-/
theorem isPainted_of_visible (steps : List Plotter.Step)
    : ∀ figure ∈ (Plotter.afterSteps ⟨{}, {}⟩ steps).canvas.visible,
        figure.isPainted = true := by
  intro figure seen
  have cut
      : (Plotter.afterSteps ⟨{}, {}⟩ steps).IsCutOf
        (Plotter.afterTurns ⟨{}, {}⟩ (Plotter.Step.turns steps)) :=
    Plotter.IsCutOf.afterSteps ⟨rfl, Recording.IsCutOf.refl _⟩ steps
  have drawn := Plotter.drawnFrom_afterTurns (Plotter.Step.turns steps)
  rw [cut.canvas.visible] at seen
  have recorded := Recording.visible_suffix_figures _ |>.subset seen
  have triangular := drawn.triangular figure recorded
  cases figure with
  | polygon vertices color filled => exact decide_eq_true (Nat.le_of_eq triangular.symm)
  | wipe => exact absurd seen (Recording.wipe_not_mem_visible _)
  | line | rectangle | ellipse => rfl

/-- Every visible figure is painted, in order. Into any area the background is painted first, and
then what depicts each figure, one shape for one figure and nothing else, where wipes and polygons
of fewer than three vertices are left out. In a session driven by texts, with drops at any places,
nothing that is visible is left out.
-/
theorem every_visible_figure_is_painted (screen area : ScreenArea) (background : Color)
    : (∀ figures,
        ∃ shapes,
          paint screen area background figures
            = ⟨.area area (.solid background), area.intersect screen⟩ :: shapes
          ∧ List.Forall₂
              (fun figure shape =>
                shape.clip = area.intersect screen
                ∧ Depicts area.upperLeft figure (Shape.form shape))
              (figures.filter Figure.isPainted) shapes)
      ∧ ∀ steps,
          let seen := (Plotter.afterSteps ⟨{}, {}⟩ steps).canvas.visible
          seen.filter Figure.isPainted = seen
          ∧ (paint screen area background seen).length = 1 + seen.length := by
  constructor
  · intro figures
    refine ⟨_, rfl, ?_⟩
    rw [List.forall₂_map_right_iff]
    exact (forms_depict area.upperLeft figures).imp fun _ _ depicts => ⟨rfl, depicts⟩
  · intro steps seen
    have whole : seen.filter Figure.isPainted = seen :=
      List.filter_eq_self.mpr (isPainted_of_visible steps)
    have forms := (forms_depict area.upperLeft seen).length_eq
    rw [whole] at forms
    refine ⟨whole, ?_⟩
    rw [paint, List.length_cons, List.length_map, ← forms, Nat.add_comm]

end Painting

end PenPlotter
