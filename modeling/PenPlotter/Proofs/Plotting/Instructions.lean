import PenPlotter.Proofs.Plotting.Steps

/-!
What an instruction does, told without a plotter: what it sets, what it draws with a given pen,
and what is wrong with it. Carrying it out comes to exactly these on every canvas.
-/

namespace PenPlotter

universe u

-----------------------------------------------------------------------------------------
-- Settings, figures and faults
-----------------------------------------------------------------------------------------

namespace Instruction

/-- Where an instruction sends the pen, if anywhere. -/
def target? : Instruction → Option Point
  | .moveTo target | .drawTo target => some target
  | _ => none

/-- The color that an instruction gives the pen, if it gives one. -/
def color? : Instruction → Option Color
  | .setColor name => Color.ofName? name
  | _ => none

/-- Whether shapes are to be filled, if an instruction says so. -/
def fill? : Instruction → Option Bool
  | .setFill enabled => some enabled
  | _ => none

/-- The figure that an instruction draws with a pen, if it draws any. Only a line starts at the
pen, and only a circle lies around it.
-/
def figure? (pen : Pen) : Instruction → Option Figure
  | .drawTo target => some (.line pen.position target pen.color)
  | .clear => some .wipe
  | .rectangle box => some (.rectangle box pen.color pen.fill)
  | .circle radius => some (.ellipse (Box.around pen.position radius) pen.color pen.fill)
  | .triangle first second third => some (.polygon [first, second, third] pen.color pen.fill)
  | .moveTo _ | .setColor _ | .setFill _ => none

/-- Whether an instruction draws, which no pen can change. -/
def draws : Instruction → Bool
  | .drawTo _ | .clear | .rectangle _ | .circle _ | .triangle .. => true
  | .moveTo _ | .setColor _ | .setFill _ => false

/-- What keeps an instruction from being carried out: a color that does not exist. -/
def fault? : Instruction → Option Fault
  | .setColor name => if Color.ofName? name = none then some (.unknownColor name) else none
  | _ => none

theorem isSome_figure? (pen : Pen) (instruction : Instruction)
    : (instruction.figure? pen).isSome = instruction.draws := by
  cases instruction <;> rfl

/-- The only fault is an unknown color, by cases on the instruction. -/
theorem fault?_eq_some {instruction : Instruction} {fault : Fault}
    : instruction.fault? = some fault
      ↔ ∃ name,
          instruction = .setColor name
          ∧ Color.ofName? name = none
          ∧ fault = .unknownColor name := by
  cases instruction <;> simp [fault?, eq_comm]

end Instruction

/-- The pen after an instruction. What is not set stays. -/
def Pen.after (pen : Pen) (instruction : Instruction) : Pen where
  position := instruction.target?.getD pen.position
  color := instruction.color?.getD pen.color
  fill := instruction.fill?.getD pen.fill

-----------------------------------------------------------------------------------------
-- Carrying out one instruction
-----------------------------------------------------------------------------------------

namespace Plotter

open Outcome

variable {κ : Type u} [Canvas κ]

/-- Carrying out an instruction sets what it sets, draws its figure with the pen as it was, and
fails by its fault, on every canvas. By cases on the instruction and on whether its color exists.
-/
theorem perform_eq (plotter : Plotter κ) (instruction : Instruction)
    : plotter.perform instruction
      = ⟨⟨plotter.pen.after instruction,
            Canvas.replay (instruction.figure? plotter.pen).toList plotter.canvas⟩,
          resultOf instruction.fault?⟩ := by
  cases instruction with
  | setColor name =>
      simp only [perform]
      cases known : Color.ofName? name with
      | none => simp [Pen.after, Instruction.target?, Instruction.color?, Instruction.fill?,
          Instruction.figure?, Instruction.fault?, resultOf, known]
      | some color => simp [Pen.after, Instruction.target?, Instruction.color?, Instruction.fill?,
          Instruction.figure?, Instruction.fault?, resultOf, known]
  | _ => rfl

theorem perform_result (plotter : Plotter κ) (instruction : Instruction)
    : (plotter.perform instruction).result = resultOf instruction.fault? := by
  rw [perform_eq]

/-- An instruction that fails changes nothing: its color is unknown, so it sets and draws
nothing.
-/
theorem perform_plotter_of_error {plotter : Plotter κ} {instruction : Instruction}
    {fault : Fault} (failed : (plotter.perform instruction).result = .error fault)
    : (plotter.perform instruction).plotter = plotter := by
  rw [perform_eq] at failed ⊢
  obtain ⟨name, rfl, unknown, -⟩ :=
    Instruction.fault?_eq_some.mp (resultOf_eq_error.mp failed)
  simp [Pen.after, Instruction.target?, Instruction.color?, Instruction.fill?,
    Instruction.figure?, unknown]

end Plotter

end PenPlotter
