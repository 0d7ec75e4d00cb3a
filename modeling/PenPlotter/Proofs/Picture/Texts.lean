import PenPlotter.Picture.Figure
import PenPlotter.Proofs.Number.Distinct
import PenPlotter.Proofs.Picture.Colors

/-!
The texts of figures can be taken apart again. A number ends before a comma, a parenthesis, a space
or an `x`, a row of points before a bracket, and a color before a space. What is no number has one
text for all its patterns, so figures are told apart by their texts as far as they hold none.
-/

namespace PenPlotter

-----------------------------------------------------------------------------------------
-- Points and boxes
-----------------------------------------------------------------------------------------

/-- Both coordinates are numbers, if perhaps infinite ones. -/
def Point.AllNumbers (p : Point) : Prop :=
  p.x.isNaN = false ∧ p.y.isNaN = false

def Box.AllNumbers (box : Box) : Prop :=
  Point.AllNumbers ⟨box.x, box.y⟩ ∧ box.width.isNaN = false ∧ box.height.isNaN = false

/-- A figure holds nothing that is no number. -/
def Figure.AllNumbers : Figure → Prop
  | .line source target _ => source.AllNumbers ∧ target.AllNumbers
  | .rectangle box _ _ | .ellipse box _ _ => box.AllNumbers
  | .polygon vertices _ _ => ∀ p ∈ vertices, p.AllNumbers
  | .wipe => True

theorem Point.text_append (p : Point) (right : String)
    : p.text ++ right
      = "(" ++ (BinaryFloat.text p.x ++ (", " ++ (BinaryFloat.text p.y ++ (")" ++ right)))) := by
  simp only [Point.text, String.append_assoc]

/-- A point ends at its second parenthesis. -/
theorem Point.text_append_inj {p q : Point} (numbers : p.AllNumbers) (too : q.AllNumbers)
    {right more : String}
    : p.text ++ right = q.text ++ more ↔ p = q ∧ right = more := by
  have comma : BinaryFloat.IsForeign ',' := ⟨rfl, by decide⟩
  have parenthesis : BinaryFloat.IsForeign ')' := ⟨rfl, by decide⟩
  rw [text_append, text_append, String.append_right_inj,
    BinaryFloat.text_append_inj numbers.1 too.1 comma (Text.head?_append rfl)
      (Text.head?_append rfl),
    String.append_right_inj,
    BinaryFloat.text_append_inj numbers.2 too.2 parenthesis (Text.head?_append rfl)
      (Text.head?_append rfl),
    String.append_right_inj]
  obtain ⟨_, _⟩ := p
  obtain ⟨_, _⟩ := q
  rw [Point.mk.injEq, and_assoc]

/-- A box ends before a space. -/
theorem Box.text_append_inj {box other : Box} (numbers : box.AllNumbers) (too : other.AllNumbers)
    {right more : String} (starts : right.toList.head? = some ' ')
    (startsToo : more.toList.head? = some ' ')
    : box.text ++ right = other.text ++ more ↔ box = other ∧ right = more := by
  have cross : BinaryFloat.IsForeign 'x' := ⟨rfl, by decide⟩
  have space : BinaryFloat.IsForeign ' ' := ⟨rfl, by decide⟩
  simp only [Box.text, String.append_assoc]
  rw [Point.text_append_inj numbers.1 too.1, String.append_right_inj,
    BinaryFloat.text_append_inj numbers.2.1 too.2.1 cross (Text.head?_append rfl)
      (Text.head?_append rfl),
    String.append_right_inj,
    BinaryFloat.text_append_inj numbers.2.2 too.2.2 space starts startsToo]
  obtain ⟨_, _, _, _⟩ := box
  obtain ⟨_, _, _, _⟩ := other
  rw [Point.mk.injEq, Box.mk.injEq]
  simp only [and_assoc]

-----------------------------------------------------------------------------------------
-- Rows of points
-----------------------------------------------------------------------------------------

/-- The points of a polygon as they stand between the brackets. -/
def Point.rowText (points : List Point) : String :=
  ", ".intercalate (points.map Point.text)

theorem Point.rowText_cons_cons (p next : Point) (rest : List Point) (right : String)
    : rowText (p :: next :: rest) ++ right
      = p.text ++ (", " ++ (rowText (next :: rest) ++ right)) := by
  simp only [rowText, List.map_cons, String.intercalate_cons_cons, String.append_assoc]

theorem Point.rowText_singleton (p : Point) : rowText [p] = p.text :=
  String.intercalate_singleton

/-- A row that has points begins with the parenthesis of the first. -/
theorem Point.head?_rowText_cons (p : Point) (rest : List Point) (right : String)
    : (rowText (p :: rest) ++ right).toList.head? = some '(' := by
  cases rest with
  | nil =>
      rw [rowText_singleton, text_append]
      exact Text.head?_append rfl
  | cons next rest =>
      rw [rowText_cons_cons, text_append]
      exact Text.head?_append rfl

/-- Texts with different first characters differ. -/
theorem Text.ne_of_head? {left right : String} {c d : Char} (starts : left.toList.head? = some c)
    (startsToo : right.toList.head? = some d) (differ : c ≠ d)
    : left ≠ right := by
  rintro rfl
  exact differ (Option.some.inj (starts.symm.trans startsToo))

/-- A row of points ends at a bracket, by induction on the row. After each point stands a comma if
there is another, and the bracket if there is none.
-/
theorem Point.rowText_append_inj {points others : List Point}
    (numbers : ∀ p ∈ points, p.AllNumbers) (too : ∀ p ∈ others, p.AllNumbers)
    {right more : String}
    : rowText points ++ ("]" ++ right) = rowText others ++ ("]" ++ more)
      ↔ points = others ∧ right = more := by
  have bracket (right : String) : ("]" ++ right).toList.head? = some ']' := Text.head?_append rfl
  have comma (right : String) : (", " ++ right).toList.head? = some ',' := Text.head?_append rfl
  induction points generalizing others with
  | nil =>
      cases others with
      | nil => simp
      | cons q others =>
          refine iff_of_false ?_ (by simp)
          exact Text.ne_of_head? (bracket right) (Point.head?_rowText_cons q others _) (by decide)
  | cons p points ih =>
      obtain ⟨number, numbers⟩ := List.forall_mem_cons.mp numbers
      cases others with
      | nil =>
          refine iff_of_false ?_ (by simp)
          exact Text.ne_of_head? (Point.head?_rowText_cons p points _) (bracket more) (by decide)
      | cons q others =>
          obtain ⟨numberToo, too⟩ := List.forall_mem_cons.mp too
          rw [List.cons.injEq, and_assoc]
          cases points with
          | nil =>
              cases others with
              | nil =>
                  rw [rowText_singleton, rowText_singleton, text_append_inj number numberToo]
                  simp
              | cons next others =>
                  rw [rowText_singleton, rowText_cons_cons, text_append_inj number numberToo]
                  refine and_congr_right fun _ => iff_of_false ?_ (by simp)
                  exact Text.ne_of_head? (bracket right) (comma _) (by decide)
          | cons following points =>
              cases others with
              | nil =>
                  rw [rowText_singleton, rowText_cons_cons, text_append_inj number numberToo]
                  refine and_congr_right fun _ => iff_of_false ?_ (by simp)
                  exact Text.ne_of_head? (comma _) (bracket more) (by decide)
              | cons next others =>
                  rw [rowText_cons_cons, rowText_cons_cons, text_append_inj number numberToo,
                    String.append_right_inj]
                  exact and_congr_right' (ih numbers too)

-----------------------------------------------------------------------------------------
-- Figures
-----------------------------------------------------------------------------------------

namespace Figure

/-- The color ends where the word for filling begins, or with the text. -/
theorem styleText_inj {color other : Color} {filled full : Bool}
    : styleText color filled = styleText other full ↔ color = other ∧ filled = full := by
  have apart {color other : Color} : color.text ++ " filled" ≠ other.text := by
    intro same
    apply other.space_not_mem_text
    rw [← same, String.toList_append]
    exact List.mem_append_right _ (by decide)
  rw [styleText, styleText, String.append_assoc, String.append_assoc, String.append_right_inj]
  cases filled <;> cases full
  · simp [Color.text_injective.eq_iff]
  · simpa using apart.symm
  · simpa using apart
  · simp [Color.text_injective.eq_iff]

theorem head?_styleText (color : Color) (filled : Bool)
    : (styleText color filled).toList.head? = some ' ' := by
  rw [styleText, String.append_assoc]
  exact Text.head?_append rfl

/-- The first character of a text, which is that of the word for the kind of figure. -/
def lead : Figure → Char
  | .line .. => 'l'
  | .rectangle .. => 'r'
  | .ellipse .. => 'e'
  | .polygon .. => 'p'
  | .wipe => 'c'

theorem head?_text (figure : Figure) : figure.text.toList.head? = some figure.lead := by
  cases figure <;> simp only [text, String.append_assoc] <;>
    first | rfl | exact Text.head?_append rfl

/-- Figures with equal texts are of one kind. -/
theorem lead_eq_of_text_eq {figure other : Figure} (same : figure.text = other.text)
    : figure.lead = other.lead := by
  have first := head?_text figure
  rw [same, head?_text] at first
  exact (Option.some.inj first).symm

variable {box frame : Box} {color other : Color} {filled full : Bool}

theorem text_line_inj {source target start reached : Point}
    (numbers : (line source target color).AllNumbers) (too : (line start reached other).AllNumbers)
    (same : (line source target color).text = (line start reached other).text)
    : line source target color = line start reached other := by
  simp only [text, String.append_assoc] at same
  rw [String.append_right_inj, Point.text_append_inj numbers.1 too.1, String.append_right_inj,
    Point.text_append_inj numbers.2 too.2, styleText_inj] at same
  obtain ⟨rfl, rfl, rfl, -⟩ := same
  rfl

theorem box_text_styleText_inj (numbers : box.AllNumbers) (too : frame.AllNumbers)
    : box.text ++ styleText color filled = frame.text ++ styleText other full
      ↔ box = frame ∧ color = other ∧ filled = full := by
  rw [Box.text_append_inj numbers too (head?_styleText color filled) (head?_styleText other full),
    styleText_inj]

theorem text_polygon_inj {vertices corners : List Point}
    (numbers : ∀ p ∈ vertices, p.AllNumbers) (too : ∀ p ∈ corners, p.AllNumbers)
    (same : (polygon vertices color filled).text = (polygon corners other full).text)
    : polygon vertices color filled = polygon corners other full := by
  change "polygon [" ++ Point.rowText vertices ++ "]" ++ styleText color filled
    = "polygon [" ++ Point.rowText corners ++ "]" ++ styleText other full at same
  simp only [String.append_assoc] at same
  rw [String.append_right_inj, Point.rowText_append_inj numbers too, styleText_inj] at same
  obtain ⟨rfl, rfl, rfl⟩ := same
  rfl

/-- The text of a figure tells all of it. Of two figures without anything that is no number, the
texts are equal only if the figures are: of one kind, with the same color, filling and number of
points, and with the same coordinates bit for bit, where a zero differs from one with a minus. By
cases on the kinds, which the first characters tell apart.
-/
theorem text_tells_figure {figure other : Figure} (numbers : figure.AllNumbers)
    (too : other.AllNumbers)
    : figure.text = other.text ↔ figure = other := by
  refine ⟨fun same => ?_, congrArg text⟩
  have kinds := lead_eq_of_text_eq same
  cases figure with
  | line source target color =>
      cases other with
      | line => exact text_line_inj numbers too same
      | rectangle | ellipse | polygon | wipe => cases kinds
  | rectangle box color filled =>
      cases other with
      | rectangle frame other full =>
          simp only [text, String.append_assoc] at same
          rw [String.append_right_inj, box_text_styleText_inj numbers too] at same
          obtain ⟨rfl, rfl, rfl⟩ := same
          rfl
      | line | ellipse | polygon | wipe => cases kinds
  | ellipse box color filled =>
      cases other with
      | ellipse frame other full =>
          simp only [text, String.append_assoc] at same
          rw [String.append_right_inj, box_text_styleText_inj numbers too] at same
          obtain ⟨rfl, rfl, rfl⟩ := same
          rfl
      | line | rectangle | polygon | wipe => cases kinds
  | polygon vertices color filled =>
      cases other with
      | polygon => exact text_polygon_inj numbers too same
      | line | rectangle | ellipse | wipe => cases kinds
  | wipe =>
      cases other with
      | wipe => rfl
      | line | rectangle | ellipse | polygon => cases kinds

/-- Two polygons with infinite coordinates, in a color with two names, that differ only in the sign
of a zero.
-/
theorem text_tells_figure_sample
    : let far : Point := ⟨.ofBits 0x7FF0000000000000, .ofBits 0xFFF0000000000000⟩
      let figure : Figure := .polygon [⟨0, -0⟩, far] ⟨128, 128, 128⟩ true
      let other : Figure := .polygon [⟨0, 0⟩, far] ⟨128, 128, 128⟩ true
      figure.AllNumbers
      ∧ other.AllNumbers
      ∧ figure.text = "polygon [(0, -0), (inf, -inf)] gray filled"
      ∧ other.text ≠ figure.text := by
  intro far figure other
  have numbers : figure.AllNumbers := by
    subst figure far
    simp only [AllNumbers, List.forall_mem_cons, Point.AllNumbers]
    decide +kernel
  have too : other.AllNumbers := by
    subst other far
    simp only [AllNumbers, List.forall_mem_cons, Point.AllNumbers]
    decide +kernel
  have written : figure.text = "polygon [(0, -0), (inf, -inf)] gray filled" := by
    subst figure far
    decide +kernel
  have differ : other ≠ figure := by
    subst figure other far
    decide +kernel
  exact ⟨numbers, too, written, fun same => differ ((text_tells_figure too numbers).mp same)⟩

end Figure

end PenPlotter
