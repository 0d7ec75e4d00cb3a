import PenPlotter.Proofs.Picture.Colors
import PenPlotter.Proofs.Plotting.Turns
import PenPlotter.Proofs.Reading.Grammar

/-!
Where the values of a session come from. Every coordinate of the pen, of a line, a rectangle or a
polygon is the zero that the pen starts with, or was read from a word of a line that was carried
out. No coordinate is computed, so none can be anything but finite; only the boxes of circles are
computed from others. Colors come from the table, and polygons from triangles.
-/

namespace PenPlotter

-----------------------------------------------------------------------------------------
-- Coordinates and the numbers of lines
-----------------------------------------------------------------------------------------

def Point.coordinates (p : Point) : List Float :=
  [p.x, p.y]

/-- The coordinates of a figure, but for the box of an ellipse. -/
def Figure.coordinates : Figure → List Float
  | .line source target _ => source.coordinates ++ target.coordinates
  | .rectangle box _ _ => [box.x, box.y, box.width, box.height]
  | .polygon vertices _ _ => vertices.flatMap Point.coordinates
  | .ellipse .. | .wipe => []

/-- A polygon of three vertices, or any other figure. -/
def Figure.IsTriangular : Figure → Prop
  | .polygon vertices _ _ => vertices.length = 3
  | _ => True

/-- The numbers that an instruction holds, in written order. -/
def Instruction.numbers : Instruction → List Float
  | .moveTo target | .drawTo target => target.coordinates
  | .rectangle box => [box.x, box.y, box.width, box.height]
  | .circle radius => [radius]
  | .triangle first second third =>
      first.coordinates ++ second.coordinates ++ third.coordinates
  | .clear | .setColor _ | .setFill _ => []

/-- A number is read from a line when one of its words, the first apart, spells it. -/
def Text.HoldsNumber (line : String) (x : Float) : Prop :=
  ∃ word ∈ (words line).tail, Argument.number? word = some x

/-- The coordinates of the pen and of all figures recorded. -/
def Plotter.coordinates (plotter : Plotter Recording) : List Float :=
  plotter.pen.position.coordinates ++ plotter.canvas.figures.flatMap Figure.coordinates

/-- The coordinates of a plotter come from lines, its color from the table, and its polygons are
triangles.
-/
structure Plotter.DrawnFrom (lines : List String) (plotter : Plotter Recording) : Prop where
  coordinates
    : ∀ x ∈ plotter.coordinates, x = 0 ∨ ∃ line ∈ lines, Text.HoldsNumber line x
  color : plotter.pen.color ∈ Color.table.map Prod.snd
  triangular : ∀ figure ∈ plotter.canvas.figures, figure.IsTriangular

-----------------------------------------------------------------------------------------
-- One instruction
-----------------------------------------------------------------------------------------

namespace Instruction

/-- The numbers that an instruction holds are its fields of that kind. -/
theorem numbers_eq (instruction : Instruction)
    : ∀ x ∈ instruction.numbers, ⟨.number, x⟩ ∈ instruction.fields := by
  cases instruction <;> simp [numbers, fields, Point.coordinates]

/-- An instruction that is read from a line holds numbers of that line alone. -/
theorem holdsNumber_of_parse {line : String} {instruction : Instruction}
    (parsed : parse line = .ok instruction)
    : ∀ x ∈ instruction.numbers, Text.HoldsNumber line x := by
  intro x member
  rw [parse_eq_ofWords, ofWords_eq_ok_iff_writtenAs] at parsed
  obtain ⟨head, arguments, split, -, spelled⟩ := parsed
  obtain ⟨k, here, known⟩ := List.mem_iff_getElem.mp (instruction.numbers_eq x member)
  have there : k < arguments.length := spelled.length_eq ▸ here
  have spells := spelled.get here there
  refine ⟨arguments[k], ?_, ?_⟩
  · rw [split]
    exact List.getElem_mem there
  · rw [List.get_eq_getElem, known] at spells
    exact Argument.number?_eq_some_iff.mpr spells

theorem numbers_target {instruction : Instruction} {target : Point}
    (sent : instruction.target? = some target)
    : instruction.numbers = target.coordinates := by
  cases instruction <;> simp only [target?, Option.some.injEq, reduceCtorEq] at sent
  all_goals rw [numbers, sent]

/-- The pen is sent to numbers of the instruction, or stays. -/
theorem mem_coordinates_after (pen : Pen) (instruction : Instruction)
    : ∀ x ∈ (pen.after instruction).position.coordinates,
        x ∈ pen.position.coordinates ∨ x ∈ instruction.numbers := by
  intro x member
  rw [Pen.after] at member
  cases sent : instruction.target? with
  | none =>
      rw [sent] at member
      exact Or.inl member
  | some target =>
      rw [sent] at member
      rw [numbers_target sent]
      exact Or.inr member

/-- A figure has coordinates of the pen and numbers of the instruction. Only a line has both. -/
theorem mem_coordinates_figure {pen : Pen} {instruction : Instruction} {figure : Figure}
    (drawn : instruction.figure? pen = some figure)
    : ∀ x ∈ figure.coordinates,
        x ∈ pen.position.coordinates ∨ x ∈ instruction.numbers := by
  intro x member
  cases instruction <;> simp only [figure?, Option.some.injEq, reduceCtorEq] at drawn
  all_goals subst drawn
  case drawTo target => exact List.mem_append.mp member
  case clear => cases member
  case rectangle box => exact Or.inr member
  case circle radius => cases member
  case triangle first second third =>
      refine Or.inr ?_
      simpa [Figure.coordinates, numbers] using member

theorem color_after (pen : Pen) (instruction : Instruction)
    (known : pen.color ∈ Color.table.map Prod.snd)
    : (pen.after instruction).color ∈ Color.table.map Prod.snd := by
  rw [Pen.after]
  cases set : instruction.color? with
  | none => exact known
  | some color =>
      cases instruction <;> simp only [color?, reduceCtorEq] at set
      exact Color.mem_table_of_ofName? set

theorem isTriangular_figure {pen : Pen} {instruction : Instruction} {figure : Figure}
    (drawn : instruction.figure? pen = some figure)
    : figure.IsTriangular := by
  cases instruction <;> simp only [figure?, Option.some.injEq, reduceCtorEq] at drawn
  all_goals
    subst drawn
    simp [Figure.IsTriangular]

end Instruction

-----------------------------------------------------------------------------------------
-- Sessions
-----------------------------------------------------------------------------------------

namespace Plotter

variable {lines : List String} {plotter : Plotter Recording}

theorem drawnFrom_fresh (lines : List String) : DrawnFrom lines ⟨{}, {}⟩ where
  coordinates := by
    intro x member
    have zero : x = 0 := by
      simpa [Plotter.coordinates, Point.coordinates, Point.origin, Recording.figures] using member
    exact Or.inl zero
  color := List.mem_cons_self
  triangular := by simp [Recording.figures]

/-- A fresh pen is at zero and black. -/
theorem DrawnFrom.reset (drawn : plotter.DrawnFrom lines) : plotter.reset.DrawnFrom lines where
  coordinates := by
    intro x member
    rcases List.mem_append.mp member with pen | figures
    · exact (drawnFrom_fresh lines).coordinates x (List.mem_append_left _ pen)
    · exact drawn.coordinates x (List.mem_append_right _ figures)
  color := List.mem_cons_self
  triangular := drawn.triangular

/-- An instruction of one of the lines only adds numbers of that line. -/
theorem DrawnFrom.perform (drawn : plotter.DrawnFrom lines) {line : String}
    {instruction : Instruction} (member : line ∈ lines)
    (parsed : Instruction.parse line = .ok instruction)
    : (plotter.perform instruction).plotter.DrawnFrom lines := by
  have known
      : ∀ x, x ∈ plotter.pen.position.coordinates ∨ x ∈ instruction.numbers
        → x = 0 ∨ ∃ line ∈ lines, Text.HoldsNumber line x := by
    rintro x (old | new)
    · exact drawn.coordinates x (List.mem_append_left _ old)
    · exact Or.inr ⟨line, member, Instruction.holdsNumber_of_parse parsed x new⟩
  have figures
      : (plotter.perform instruction).plotter.canvas.figures
        = plotter.canvas.figures ++ (instruction.figure? plotter.pen).toList := by
    rw [perform_eq, Recording.figures_replay]
  have pen : (plotter.perform instruction).plotter.pen = plotter.pen.after instruction := by
    rw [perform_eq]
  constructor
  case coordinates =>
    intro x here
    rw [Plotter.coordinates, figures, pen, List.flatMap_append, ← List.append_assoc] at here
    rcases List.mem_append.mp here with before | drawnNow
    · rcases List.mem_append.mp before with atPen | inFigures
      · exact known x (instruction.mem_coordinates_after plotter.pen x atPen)
      · exact drawn.coordinates x (List.mem_append_right _ inFigures)
    · obtain ⟨figure, new, inFigure⟩ := List.mem_flatMap.mp drawnNow
      exact known x (Instruction.mem_coordinates_figure (Option.mem_toList.mp new) x inFigure)
  case color =>
    rw [pen]
    exact instruction.color_after plotter.pen drawn.color
  case triangular =>
    rw [figures]
    intro figure here
    rcases List.mem_append.mp here with old | new
    · exact drawn.triangular figure old
    · exact Instruction.isTriangular_figure (Option.mem_toList.mp new)

/-- After any session, what is drawn comes from the lines that were carried out. -/
theorem drawnFrom_afterTurns (turns : List Turn)
    : let fresh : Plotter Recording := ⟨{}, {}⟩
      (fresh.afterTurns turns).DrawnFrom (fresh.linesDoneInAll turns) := by
  intro fresh
  apply afterTurns_kept ?resets ?performs (drawnFrom_fresh _) fun _ member => member
  case resets => exact fun _ drawn => drawn.reset
  case performs =>
    intro plotter line instruction drawn member parsed
    exact drawn.perform member parsed

/-- Zero is finite, and so is every number that is read. -/
theorem DrawnFrom.isFinite (drawn : plotter.DrawnFrom lines)
    : ∀ x ∈ plotter.coordinates, x.isFinite = true := by
  intro x member
  rcases drawn.coordinates x member with rfl | ⟨line, -, word, -, read⟩
  · decide
  · exact (Argument.number?_eq_some_iff.mp read).1

/-- Values that are driven by texts stay drawable. After any programs, commands and resets, every
coordinate of the pen and of the lines, rectangles and polygons recorded is finite, and is either
the zero at first or what some word of a line that was carried out spells. The pen has a color of
the table, and every polygon has three vertices.
-/
theorem values_stay_drawable (turns : List Turn)
    : let fresh : Plotter Recording := ⟨{}, {}⟩
      let plotter := fresh.afterTurns turns
      let lines := fresh.linesDoneInAll turns
      (∀ x ∈ plotter.coordinates,
          x.isFinite = true ∧ (x = 0 ∨ ∃ line ∈ lines, Text.HoldsNumber line x))
      ∧ plotter.pen.color ∈ Color.table.map Prod.snd
      ∧ ∀ vertices color filled,
          .polygon vertices color filled ∈ plotter.canvas.figures → vertices.length = 3 := by
  intro fresh plotter lines
  have drawn : plotter.DrawnFrom lines := drawnFrom_afterTurns turns
  refine ⟨?_, drawn.color, ?_⟩
  · intro x member
    exact ⟨drawn.isFinite x member, drawn.coordinates x member⟩
  · intro vertices color filled member
    exact drawn.triangular _ member

/-- A line whose start was read by one command and whose end by another, and a triangle, after a
program that failed.
-/
theorem values_stay_drawable_sample
    : let fresh : Plotter Recording := ⟨{}, {}⟩
      let turns : List Turn :=
        [.give (.program "color red\nmoveto 7 7\nmoveto x 8"), .reset,
          .give (.command " moveto -0 2.5e3 "), .give (.command "drawto 1 .5"),
          .give (.command "triangle 0 0 1 0 0 1")]
      let vertices : List Point := [⟨0, 0⟩, ⟨1, 0⟩, ⟨0, 1⟩]
      fresh.linesDoneInAll turns
        = ["color red", "moveto 7 7", " moveto -0 2.5e3 ", "drawto 1 .5",
          "triangle 0 0 1 0 0 1"]
      ∧ (fresh.afterTurns turns).canvas.figures
        = [.line ⟨-0, 2500⟩ ⟨1, 0.5⟩ .black, .polygon vertices .black false]
      ∧ (2500 : Float) ∈ (fresh.afterTurns turns).coordinates
      ∧ (2500 : Float).isFinite = true
      ∧ vertices.length = 3 := by
  intro fresh turns vertices
  have lines
      : fresh.linesDoneInAll turns
        = ["color red", "moveto 7 7", " moveto -0 2.5e3 ", "drawto 1 .5",
          "triangle 0 0 1 0 0 1"] := by
    subst fresh turns
    rfl
  have drawn
      : (fresh.afterTurns turns).canvas.figures
        = [.line ⟨-0, 2500⟩ ⟨1, 0.5⟩ .black, .polygon vertices .black false] := by
    subst fresh turns vertices
    decide +kernel
  have member : (2500 : Float) ∈ (fresh.afterTurns turns).coordinates := by
    rw [coordinates, drawn]
    refine List.mem_append_right _ ?_
    simp [Figure.coordinates, Point.coordinates]
  have polygon : .polygon vertices .black false ∈ (fresh.afterTurns turns).canvas.figures := by
    rw [drawn]
    exact List.mem_cons_of_mem _ List.mem_cons_self
  obtain ⟨values, -, polygons⟩ := values_stay_drawable turns
  exact ⟨lines, drawn, member, (values 2500 member).1, polygons vertices _ _ polygon⟩

end Plotter

end PenPlotter
