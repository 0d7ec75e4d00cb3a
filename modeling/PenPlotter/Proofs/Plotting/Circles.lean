import PenPlotter.Proofs.Number.Arithmetic
import PenPlotter.Proofs.Plotting.Positions
import PenPlotter.Proofs.Plotting.Values

/-!
The boxes of circles are the only numbers that are computed, and they need not be finite. A circle
is read with a finite radius and drawn around a finite position, but its diameter may be too large
for a finite number, or its distance from the origin. A program draws finite boxes only, exactly
when each of its circles stays in range.
-/

namespace PenPlotter

universe u

open BinaryFloat (toRat)

-----------------------------------------------------------------------------------------
-- One circle
-----------------------------------------------------------------------------------------

/-- All four numbers of a box are finite. -/
structure Box.IsFinite (box : Box) : Prop where
  x : box.x.isFinite = true
  y : box.y.isFinite = true
  width : box.width.isFinite = true
  height : box.height.isFinite = true

/-- The exact bounds of a circle to the left and above, and its exact diameter, are below what is
rounded to infinity.
-/
structure Point.HasRoomFor (center : Point) (radius : Float) : Prop where
  left : |toRat center.x - toRat radius| < 2 ^ 1024 - 2 ^ 970
  top : |toRat center.y - toRat radius| < 2 ^ 1024 - 2 ^ 970
  diameter : |2 * toRat radius| < 2 ^ 1024 - 2 ^ 970

/-- The box around a circle is finite if there is room for it. Each of its numbers is an exact one
that is rounded once.
-/
theorem Box.isFinite_around_iff {center : Point} {radius : Float}
    (placed : ∀ x ∈ center.coordinates, x.isFinite = true) (sized : radius.isFinite = true)
    : (around center radius).IsFinite ↔ center.HasRoomFor radius := by
  have left := BinaryFloat.isFinite_sub_iff (placed center.x (by simp [Point.coordinates])) sized
  have top := BinaryFloat.isFinite_sub_iff (placed center.y (by simp [Point.coordinates])) sized
  have two : (2 : Float).isFinite = true := by decide
  have diameter := BinaryFloat.isFinite_mul_iff two sized
  rw [BinaryFloat.toRat_two] at diameter
  constructor
  · intro finite
    exact ⟨left.mp finite.x, top.mp finite.y, diameter.mp finite.width⟩
  · intro room
    exact ⟨left.mpr room.left, top.mpr room.top, diameter.mpr room.diameter,
      diameter.mpr room.diameter⟩

-----------------------------------------------------------------------------------------
-- The instructions of a program
-----------------------------------------------------------------------------------------

/-- The instructions of lines, up to the first line that has a fault. -/
def Instruction.ofLines (lines : List Text.SourceLine) : List Instruction :=
  (lines.takeWhile fun line => (Fault.ofLine? line.text).isNone).filterMap fun line =>
    (parse line.text).toOption

/-- A line has an instruction that can be carried out, or a fault. -/
theorem Instruction.ofLines_cons (line : Text.SourceLine) (lines : List Text.SourceLine)
    : (∃ instruction,
          parse line.text = .ok instruction
          ∧ instruction.fault? = none
          ∧ ofLines (line :: lines) = instruction :: ofLines lines)
      ∨ ∃ fault, Fault.ofLine? line.text = some fault ∧ ofLines (line :: lines) = [] := by
  cases known : Fault.ofLine? line.text with
  | some fault =>
      refine Or.inr ⟨fault, rfl, ?_⟩
      rw [ofLines, List.takeWhile_cons_of_neg (by simp [known]), List.filterMap_nil]
  | none =>
      have kept : (Fault.ofLine? line.text).isNone = true := by rw [known, Option.isNone_none]
      rw [Fault.ofLine?] at known
      cases parsed : parse line.text with
      | error fault =>
          rw [parsed] at known
          cases known
      | ok instruction =>
          rw [parsed] at known
          refine Or.inl ⟨instruction, rfl, known, ?_⟩
          rw [ofLines, List.takeWhile_cons_of_pos (by exact kept), List.filterMap_cons, parsed]
          rfl

namespace Plotter

open Outcome

/-- Lines leave the last settings and the figures of their instructions, on every canvas. By
induction on the lines, with the pen carried along.
-/
theorem runLines_plotter {κ : Type u} [Canvas κ] (plotter : Plotter κ)
    (lines : List Text.SourceLine)
    : (plotter.runLines lines).plotter
      = ⟨plotter.pen.lastSettings (Instruction.ofLines lines),
          Canvas.replay (Instruction.drawing plotter.pen (Instruction.ofLines lines))
            plotter.canvas⟩ := by
  induction lines generalizing plotter with
  | nil => rfl
  | cons line lines ih =>
      rw [runLines, each_cons]
      rcases Instruction.ofLines_cons line lines with
        ⟨instruction, parsed, sound, next⟩ | ⟨fault, known, none⟩
      · have performed : (plotter.perform instruction).result = .ok () := by
          rw [perform_result, sound]
          rfl
        have done : plotter.runLine line = ⟨(plotter.perform instruction).plotter, .ok ()⟩ := by
          rw [runLine, attempt, parsed]
          exact mapError_of_ok performed _
        rw [done, andThen_of_ok rfl, perform_eq, next, Pen.lastSettings_cons,
          Instruction.drawing_cons, Canvas.replay_append]
        exact ih _
      · have failed : (plotter.attempt line.text).result = .error fault := by
          rw [attempt_result, known]
          rfl
        have stopped : plotter.runLine line = ⟨plotter, .error ⟨line.number, fault⟩⟩ := by
          rw [runLine, mapError_of_error failed, attempt_plotter_of_error failed]
        rw [stopped, andThen_of_error rfl, none]
        rfl

/-- The instructions of a program that are carried out. -/
def instructionsDone (program : String) : List Instruction :=
  Instruction.ofLines (Text.sourceLines program)

/-- What a program records is the drawing of its instructions up to the first fault. -/
theorem figures_record (program : String)
    : (record program).plotter.canvas.figures
      = Instruction.drawing {} (instructionsDone program) := by
  rw [record, run, runLines_plotter, Recording.figures_replay]
  rfl

end Plotter

-----------------------------------------------------------------------------------------
-- Positions of the pen
-----------------------------------------------------------------------------------------

namespace Instruction

/-- The pen stands where it stood at first or where an instruction has sent it. -/
theorem position_lastSettings (pen : Pen) (program : List Instruction)
    : (pen.lastSettings program).position = pen.position
      ∨ ∃ instruction ∈ program,
          instruction.target? = some (pen.lastSettings program).position := by
  rw [Pen.lastSettings]
  dsimp only
  rw [lastSet]
  cases known : (program.filterMap target?).getLast? with
  | none => exact Or.inl rfl
  | some target =>
      right
      obtain ⟨instruction, member, sent⟩ := List.mem_filterMap.mp (List.mem_of_getLast? known)
      exact ⟨instruction, member, sent⟩

/-- An instruction of a program is read from some line. -/
theorem exists_parse_of_mem {lines : List Text.SourceLine} {instruction : Instruction}
    (member : instruction ∈ ofLines lines)
    : ∃ line ∈ lines, parse line.text = .ok instruction := by
  obtain ⟨line, taken, parsed⟩ := List.mem_filterMap.mp member
  refine ⟨line, (List.takeWhile_prefix _).subset taken, ?_⟩
  cases known : parse line.text with
  | error fault =>
      rw [known] at parsed
      cases parsed
  | ok other =>
      rw [known] at parsed
      rw [Option.some.inj parsed]

/-- So its numbers are finite. -/
theorem isFinite_of_mem_ofLines {lines : List Text.SourceLine} {instruction : Instruction}
    (member : instruction ∈ ofLines lines)
    : ∀ x ∈ instruction.numbers, x.isFinite = true := by
  intro x number
  obtain ⟨line, -, parsed⟩ := exists_parse_of_mem member
  obtain ⟨word, -, read⟩ := holdsNumber_of_parse parsed x number
  exact (Argument.number?_eq_some_iff.mp read).1

/-- The pen of a program stays at finite positions, as it begins at one. -/
theorem isFinite_position {lines : List Text.SourceLine} {done : List Instruction}
    (among : ∀ instruction ∈ done, instruction ∈ ofLines lines)
    : ∀ x ∈ ((Pen.lastSettings {} done).position).coordinates, x.isFinite = true := by
  rcases position_lastSettings {} done with first | ⟨instruction, member, sent⟩
  · rw [first]
    intro x here
    have zero : x = 0 := by simpa [Point.coordinates, Point.origin] using here
    rw [zero]
    decide
  · rw [← numbers_target sent]
    exact isFinite_of_mem_ofLines (among instruction member)

/-- A figure is drawn by some instruction, with the settings made before it. -/
theorem mem_drawing_iff {pen : Pen} {program : List Instruction} {figure : Figure}
    : figure ∈ drawing pen program
      ↔ ∃ (k : Nat) (instruction : Instruction),
          program[k]? = some instruction
          ∧ instruction.figure? (pen.lastSettings (program.take k)) = some figure := by
  rw [drawing, List.mem_filterMap]
  constructor
  · rintro ⟨figure?, member, drawn⟩
    obtain ⟨k, here, known⟩ := List.mem_mapIdx.mp member
    rw [id, ← known] at drawn
    exact ⟨k, program[k], List.getElem?_eq_getElem here, drawn⟩
  · rintro ⟨k, instruction, found, drawn⟩
    obtain ⟨here, rfl⟩ := List.getElem?_eq_some_iff.mp found
    exact ⟨some figure, List.mem_mapIdx.mpr ⟨k, here, drawn⟩, rfl⟩

theorem figure?_eq_ellipse_iff {pen : Pen} {instruction : Instruction} {box : Box} {color : Color}
    {filled : Bool}
    : instruction.figure? pen = some (.ellipse box color filled)
      ↔ ∃ radius,
          instruction = .circle radius
          ∧ box = Box.around pen.position radius
          ∧ color = pen.color
          ∧ filled = pen.fill := by
  cases instruction <;> simp [figure?, eq_comm]

end Instruction

-----------------------------------------------------------------------------------------
-- All circles of a program
-----------------------------------------------------------------------------------------

namespace Plotter

/-- The radius of a circle and the position that it is drawn around are finite, so its box is finite
if there is room.
-/
theorem isFinite_around_iff_of_done {program : String} {k : Nat} {radius : Float}
    (here : (instructionsDone program)[k]? = some (.circle radius))
    : let center := (Pen.lastSettings {} ((instructionsDone program).take k)).position
      (Box.around center radius).IsFinite ↔ center.HasRoomFor radius := by
  intro center
  apply Box.isFinite_around_iff
  · exact Instruction.isFinite_position fun _ member => List.mem_of_mem_take member
  · have member : .circle radius ∈ instructionsDone program := List.mem_of_getElem? here
    exact Instruction.isFinite_of_mem_ofLines member radius List.mem_cons_self

/-- Every ellipse that is recorded for a program has finite bounds. -/
def DrawsFiniteEllipses (program : String) : Prop :=
  ∀ box color filled,
    .ellipse box color filled ∈ (record program).plotter.canvas.figures → box.IsFinite

/-- A program draws ellipses with finite bounds only, exactly when there is room for each of its
circles: for every circle before the first fault, with its radius and around the last position
that was set before it, neither the exact diameter nor an exact bound to the left or above reaches
what is rounded to infinity.
-/
theorem draws_finite_ellipses_iff (program : String)
    : DrawsFiniteEllipses program
      ↔ ∀ (k : Nat) (radius : Float),
          (instructionsDone program)[k]? = some (.circle radius)
          → (Pen.lastSettings {} ((instructionsDone program).take k)).position.HasRoomFor
              radius := by
  rw [DrawsFiniteEllipses, figures_record]
  constructor
  · intro finite k radius here
    apply (isFinite_around_iff_of_done here).mp
    apply finite _ _ _
    exact Instruction.mem_drawing_iff.mpr ⟨k, .circle radius, here, rfl⟩
  · intro room box color filled drawn
    obtain ⟨k, instruction, here, figure⟩ := Instruction.mem_drawing_iff.mp drawn
    obtain ⟨radius, rfl, rfl, -, -⟩ := Instruction.figure?_eq_ellipse_iff.mp figure
    exact (isFinite_around_iff_of_done here).mpr (room k radius here)

/-- A radius that is read as a finite number can be too large for a diameter. -/
theorem draws_infinite_ellipse
    : (record "circle 1e308").plotter.canvas.figures
        = [.ellipse ⟨-1e308, -1e308, 1 / 0, 1 / 0⟩ .black false]
      ∧ ¬DrawsFiniteEllipses "circle 1e308" := by
  have figures
      : (record "circle 1e308").plotter.canvas.figures
        = [.ellipse ⟨-1e308, -1e308, 1 / 0, 1 / 0⟩ .black false] := by
    decide +kernel
  refine ⟨figures, ?_⟩
  intro finite
  have drawn : Box.IsFinite ⟨-1e308, -1e308, 1 / 0, 1 / 0⟩ := by
    apply finite _ .black false
    rw [figures]
    exact List.mem_singleton_self _
  have infinite : ¬(1 / 0 : Float).isFinite = true := by decide +kernel
  exact infinite drawn.width

end Plotter

end PenPlotter
