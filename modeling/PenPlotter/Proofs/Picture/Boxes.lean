import PenPlotter.Picture.Figure
import PenPlotter.Proofs.Number.Zeros

/-!
The normal form of boxes. A box is written from any of its corners, with extents below zero where
it leads to the left or upward. Its normal form has no such extents and covers the same region of
the sheet, as far as its corners are computed without rounding. As there is one such form for each
region, up to the signs of zeros, all ways to write a box give the same outlines.
-/

namespace PenPlotter

open BinaryFloat

variable {start extent : Float}

-----------------------------------------------------------------------------------------
-- Spans
-----------------------------------------------------------------------------------------

namespace Box

theorem normalizeSpan_of_lt (below : extent < 0)
    : normalizeSpan start extent = (start + extent, -extent) :=
  if_pos below

theorem normalizeSpan_of_not_lt (notBelow : ¬extent < 0)
    : normalizeSpan start extent = (start, extent) :=
  if_neg notBelow

theorem not_lt_normalizeSpan (start extent : Float) : ¬(normalizeSpan start extent).2 < 0 := by
  by_cases below : extent < 0
  · rw [normalizeSpan_of_lt below]
    exact not_neg_lt_zero below
  · rwa [normalizeSpan_of_not_lt below]

theorem normalizeSpan_normalizeSpan (start extent : Float)
    : normalizeSpan (normalizeSpan start extent).1 (normalizeSpan start extent).2
      = normalizeSpan start extent :=
  normalizeSpan_of_not_lt (not_lt_normalizeSpan start extent)

/-- What a span covers, between the exact places of its two ends. -/
def reach (start extent : Float) : Set ℚ :=
  Set.uIcc (toRat start) (toRat start + toRat extent)

/-- A span covers the same when it is written from its other end. -/
theorem reach_backward (adds : AddsExactly start extent)
    : reach (start + extent) (-extent) = reach start extent := by
  rw [reach, reach, adds.exact, toRat_neg adds.right, add_neg_cancel_right, Set.uIcc_comm]

theorem reach_normalizeSpan (adds : AddsExactly start extent)
    : reach (normalizeSpan start extent).1 (normalizeSpan start extent).2
      = reach start extent := by
  by_cases below : extent < 0
  · rw [normalizeSpan_of_lt below]
    exact reach_backward adds
  · rw [normalizeSpan_of_not_lt below]

theorem isFinite_normalizeSpan (finite : extent.isFinite = true)
    : (normalizeSpan start extent).2.isFinite = true := by
  by_cases below : extent < 0
  · rw [normalizeSpan_of_lt below]
    exact isFinite_neg finite
  · rwa [normalizeSpan_of_not_lt below]

/-- Spans with extents that are not below zero are told by what they cover. -/
theorem sameNumber_of_reach_eq {other extentToo : Float} (finite : extent.isFinite = true)
    (finiteToo : extentToo.isFinite = true) (notBelow : ¬extent < 0)
    (notBelowToo : ¬extentToo < 0) (same : reach start extent = reach other extentToo)
    : SameNumber start other ∧ SameNumber extent extentToo := by
  rw [lt_zero_iff_toRat finite, not_lt] at notBelow
  rw [lt_zero_iff_toRat finiteToo, not_lt] at notBelowToo
  have ordered : toRat start ≤ toRat start + toRat extent := le_add_of_nonneg_right notBelow
  rw [reach, reach, Set.uIcc_of_le ordered, Set.uIcc_of_le (le_add_of_nonneg_right notBelowToo),
    Set.Icc_eq_Icc_iff ordered] at same
  obtain ⟨starts, ends⟩ := same
  rw [starts] at ends
  exact ⟨sameNumber_iff_toRat.mpr starts, sameNumber_iff_toRat.mpr (add_left_cancel ends)⟩

/-- The two ways to write a span: from its start forward, or backward from its other end. -/
inductive WritesSpan (start extent : Float) : Float → Float → Prop
  | forward : WritesSpan start extent start extent
  | backward : WritesSpan start extent (start + extent) (-extent)

/-- Both ways to write a span have the same normal form, since they cover the same. -/
theorem WritesSpan.sameNumber {other size : Float} (writes : WritesSpan start extent other size)
    (adds : AddsExactly start extent)
    : SameNumber (normalizeSpan other size).1 (normalizeSpan start extent).1
      ∧ SameNumber (normalizeSpan other size).2 (normalizeSpan start extent).2 := by
  cases writes with
  | forward => exact ⟨Or.inl rfl, Or.inl rfl⟩
  | backward =>
      apply sameNumber_of_reach_eq
      · exact isFinite_normalizeSpan (isFinite_neg adds.right)
      · exact isFinite_normalizeSpan adds.right
      · exact not_lt_normalizeSpan _ _
      · exact not_lt_normalizeSpan _ _
      · rw [reach_normalizeSpan adds, reach_normalizeSpan adds.undone.1, reach_backward adds]

/-- Two spans along which every point is set at the same bits: the start, the end, and the points at
a factor of the half from the middle.
-/
structure SetsAlike (span other : Float × Float) : Prop where
  start : span.1 = other.1
  finish : span.1 + span.2 = other.1 + other.2
  along
    : ∀ factor,
        span.1 + span.2 / 2 + span.2 / 2 * factor
          = other.1 + other.2 / 2 + other.2 / 2 * factor

theorem SetsAlike.refl (span : Float × Float) : SetsAlike span span :=
  ⟨rfl, rfl, fun _ => rfl⟩

/-- The sign of an extent of zero has no effect, unless the span starts at the negative zero. -/
theorem SetsAlike.of_zero {other : Float} (notMinus : start ≠ -0) (zero : magnitude extent = 0)
    (zeroToo : magnitude other = 0)
    : SetsAlike (start, extent) (start, other) := by
  have same : SameNumber extent other := sameNumber_iff.mpr (Or.inr ⟨zero, zeroToo⟩)
  have half := (add_of_zero notMinus (magnitude_half_of_zero zero)).1
  have halfToo := (add_of_zero notMinus (magnitude_half_of_zero zeroToo)).1
  refine ⟨rfl, add_eq_of_sameNumber notMinus same, fun factor => ?_⟩
  dsimp only
  rw [half, halfToo]
  exact add_eq_of_sameNumber notMinus ((same.div_right 2).mul_right factor)

/-- Both ways to write a span set the points at the same bits, unless the span starts at the
negative zero. By cases on whether the extent is zero, below zero or above it.
-/
theorem WritesSpan.setsAlike {other size : Float} (writes : WritesSpan start extent other size)
    (adds : AddsExactly start extent) (notMinus : start ≠ -0)
    : SetsAlike (normalizeSpan other size) (normalizeSpan start extent) := by
  cases writes with
  | forward => exact .refl _
  | backward =>
      by_cases zero : magnitude extent = 0
      · -- Neither zero is below zero, so both spans stay as they are written.
        have zeroToo : magnitude (-extent) = 0 := (magnitude_neg adds.right).trans zero
        rw [normalizeSpan_of_not_lt (not_lt_zero_of_zero zero),
          normalizeSpan_of_not_lt (not_lt_zero_of_zero zeroToo), (add_of_zero notMinus zero).1]
        exact .of_zero notMinus zeroToo zero
      · by_cases below : extent < 0
        · rw [normalizeSpan_of_lt below, normalizeSpan_of_not_lt (not_neg_lt_zero below)]
          exact .refl _
        · have turned := neg_lt_zero_of_not_lt adds.right zero below
          rw [normalizeSpan_of_not_lt below, normalizeSpan_of_lt turned,
            adds.undone_eq notMinus, neg_neg_eq adds.right]
          exact .refl _

end Box

-----------------------------------------------------------------------------------------
-- Boxes
-----------------------------------------------------------------------------------------

/-- Two points at the same two numbers. -/
structure Point.SameNumbers (p q : Point) : Prop where
  x : SameNumber p.x q.x
  y : SameNumber p.y q.y

/-- Figures that are drawn in a box. -/
inductive Figure.InBox : (Box → Figure) → Prop
  | rectangle (color : Color) (filled : Bool) : InBox (.rectangle · color filled)
  | ellipse (color : Color) (filled : Bool) : InBox (.ellipse · color filled)

namespace Box

/-- Two boxes of the same four numbers. -/
structure SameNumbers (box other : Box) : Prop where
  x : SameNumber box.x other.x
  y : SameNumber box.y other.y
  width : SameNumber box.width other.width
  height : SameNumber box.height other.height

/-- A box of finite numbers that has its opposite corner, too, at finite numbers, which need no
rounding.
-/
structure IsExact (box : Box) : Prop where
  across : AddsExactly box.x box.width
  down : AddsExactly box.y box.height

/-- A box is written from any of its four corners: each of its two spans from either end. -/
structure Writes (other box : Box) : Prop where
  across : WritesSpan box.x box.width other.x other.width
  down : WritesSpan box.y box.height other.y other.height

/-- What a box covers, by exact places. -/
def region (box : Box) : Set (ℚ × ℚ) :=
  reach box.x box.width ×ˢ reach box.y box.height

variable {box other : Box}

theorem normalized_eq_of_spans
    (across : normalizeSpan box.x box.width = normalizeSpan other.x other.width)
    (down : normalizeSpan box.y box.height = normalizeSpan other.y other.height)
    : box.normalized = other.normalized := by
  rw [normalized, normalized, across, down]

theorem normalized_normalized (box : Box) : box.normalized.normalized = box.normalized :=
  normalized_eq_of_spans (normalizeSpan_normalizeSpan _ _) (normalizeSpan_normalizeSpan _ _)

theorem region_normalized (exact : box.IsExact) : box.normalized.region = box.region :=
  congrArg₂ (· ×ˢ ·) (reach_normalizeSpan exact.across) (reach_normalizeSpan exact.down)

theorem Writes.sameNumbers (writes : other.Writes box) (exact : box.IsExact)
    : other.normalized.SameNumbers box.normalized := by
  obtain ⟨x, width⟩ := writes.across.sameNumber exact.across
  obtain ⟨y, height⟩ := writes.down.sameNumber exact.down
  exact ⟨x, y, width, height⟩

theorem SameNumbers.corners (same : box.SameNumbers other)
    : List.Forall₂ Point.SameNumbers box.corners other.corners := by
  have right := same.x.add same.width
  have bottom := same.y.add same.height
  exact .cons ⟨same.x, same.y⟩
    (.cons ⟨right, same.y⟩ (.cons ⟨right, bottom⟩ (.cons ⟨same.x, bottom⟩ .nil)))

theorem SameNumbers.ellipsePoints (same : box.SameNumbers other) (count : Nat)
    : List.Forall₂ Point.SameNumbers (box.ellipsePoints count) (other.ellipsePoints count) := by
  have halfWidth := same.width.div_right 2
  have halfHeight := same.height.div_right 2
  rw [Box.ellipsePoints, Box.ellipsePoints, List.forall₂_map_left_iff,
    List.forall₂_map_right_iff]
  refine List.forall₂_same.mpr fun i _ => ⟨?_, ?_⟩
  · exact (same.x.add halfWidth).add (halfWidth.mul_right _)
  · exact (same.y.add halfHeight).add (halfHeight.mul_right _)

section

variable (across : SetsAlike (box.x, box.width) (other.x, other.width))
  (down : SetsAlike (box.y, box.height) (other.y, other.height))

include across down

theorem corners_eq_of_setsAlike : box.corners = other.corners := by
  have left : box.x = other.x := across.start
  have right : box.x + box.width = other.x + other.width := across.finish
  have top : box.y = other.y := down.start
  have bottom : box.y + box.height = other.y + other.height := down.finish
  rw [corners, corners, right, bottom, left, top]

theorem ellipsePoints_eq_of_setsAlike (count : Nat)
    : box.ellipsePoints count = other.ellipsePoints count := by
  rw [ellipsePoints, ellipsePoints]
  refine List.map_congr_left fun i _ => ?_
  exact congrArg₂ Point.mk (across.along _) (down.along _)

end

end Box

namespace Figure

variable {shape : Box → Figure} {box other : Box}

theorem InBox.outline_eq (inBox : InBox shape) (same : box.normalized = other.normalized)
    (segments : Nat)
    : (shape box).outline segments = (shape other).outline segments := by
  cases inBox <;> rw [outline, outline, same]

theorem InBox.outline_sameNumbers (inBox : InBox shape)
    (same : box.normalized.SameNumbers other.normalized) (segments : Nat)
    : List.Forall₂ Point.SameNumbers ((shape box).outline segments)
        ((shape other).outline segments) := by
  cases inBox with
  | rectangle => exact same.corners
  | ellipse => exact same.ellipsePoints _

/-- All ways to write a box outline a figure in it at the same bits, if the box does not start at a
negative zero.
-/
theorem InBox.outline_eq_of_writes (inBox : InBox shape) (writes : other.Writes box)
    (exact : box.IsExact) (left : box.x ≠ -0) (top : box.y ≠ -0) (segments : Nat)
    : (shape other).outline segments = (shape box).outline segments := by
  have across := writes.across.setsAlike exact.across left
  have down := writes.down.setsAlike exact.down top
  cases inBox with
  | rectangle => exact Box.corners_eq_of_setsAlike across down
  | ellipse => exact Box.ellipsePoints_eq_of_setsAlike across down _

end Figure

namespace Box

/-- A box is normalized once and for all: a second time changes no bit, no extent is below zero, and
figures in the box are outlined as in its normal form. Where the corners of a box need no rounding
its normal form covers the same region. Then the box can be written from any of its corners: the
normal form has the same numbers and figures have outlines through the same numbers, with the same
bits unless the box starts at a negative zero.
-/
theorem normal_form_forgets_the_corner (box : Box)
    : box.normalized.normalized = box.normalized
      ∧ ¬box.normalized.width < 0
      ∧ ¬box.normalized.height < 0
      ∧ (∀ shape,
          Figure.InBox shape
          → ∀ segments, (shape box.normalized).outline segments = (shape box).outline segments)
      ∧ (box.IsExact
          → box.normalized.region = box.region
            ∧ ∀ other : Box,
                other.Writes box
                → other.normalized.SameNumbers box.normalized
                  ∧ ∀ shape,
                      Figure.InBox shape
                      → ∀ segments,
                          List.Forall₂ Point.SameNumbers ((shape other).outline segments)
                            ((shape box).outline segments)
                          ∧ (box.x ≠ -0
                              → box.y ≠ -0
                              → (shape other).outline segments
                                = (shape box).outline segments)) := by
  refine ⟨normalized_normalized box, not_lt_normalizeSpan _ _, not_lt_normalizeSpan _ _, ?_, ?_⟩
  · intro shape inBox segments
    exact inBox.outline_eq (normalized_normalized box) segments
  · intro exact
    refine ⟨region_normalized exact, fun other writes => ?_⟩
    have same := writes.sameNumbers exact
    refine ⟨same, fun shape inBox segments => ?_⟩
    refine ⟨inBox.outline_sameNumbers same segments, fun left top => ?_⟩
    exact inBox.outline_eq_of_writes writes exact left top segments

/-- A box that leads to the left, written from the corner at its end, and one that starts at a
negative zero. From its other end this has the same normal form but for the sign of that zero.
-/
theorem normal_form_forgets_the_corner_samples
    : (Box.mk 10 10 (-4) 6).IsExact
      ∧ (∀ segments,
          (Figure.ellipse ⟨6, 16, 4, -6⟩ .black true).outline segments
            = (Figure.ellipse ⟨10, 10, -4, 6⟩ .black true).outline segments)
      ∧ (Box.mk (-0) 2.5 3 5).IsExact
      ∧ (Box.mk 3 2.5 (-3) 5).normalized.SameNumbers (Box.mk (-0) 2.5 3 5).normalized
      ∧ (Box.mk 3 2.5 (-3) 5).normalized ≠ (Box.mk (-0) 2.5 3 5).normalized := by
  have exact : (Box.mk 10 10 (-4) 6).IsExact :=
    ⟨⟨by decide, by decide, by decide, by decide +kernel⟩,
      ⟨by decide, by decide, by decide, by decide +kernel⟩⟩
  have zero : (Box.mk (-0) 2.5 3 5).IsExact :=
    ⟨⟨by decide, by decide, by decide, by decide +kernel⟩,
      ⟨by decide, by decide, by decide, by decide +kernel⟩⟩
  have turned : (Box.mk 6 16 4 (-6)).Writes ⟨10, 10, -4, 6⟩ := by
    have corner : Box.mk 6 16 4 (-6) = ⟨10 + -4, 10 + 6, - -4, -6⟩ := by decide +kernel
    rw [corner]
    exact ⟨.backward, .backward⟩
  have mirrored : (Box.mk 3 2.5 (-3) 5).Writes ⟨-0, 2.5, 3, 5⟩ := by
    have corner : Box.mk 3 2.5 (-3) 5 = ⟨-0 + 3, 2.5, -3, 5⟩ := by decide +kernel
    rw [corner]
    exact ⟨.backward, .forward⟩
  obtain ⟨-, -, -, -, whole⟩ := normal_form_forgets_the_corner ⟨10, 10, -4, 6⟩
  obtain ⟨-, -, -, -, part⟩ := normal_form_forgets_the_corner ⟨-0, 2.5, 3, 5⟩
  refine ⟨exact, fun segments => ?_, zero, ((part zero).2 _ mirrored).1, by decide +kernel⟩
  obtain ⟨-, outlines⟩ := (whole exact).2 _ turned
  exact (outlines _ (.ellipse .black true) segments).2 (by decide) (by decide)

end Box

end PenPlotter
