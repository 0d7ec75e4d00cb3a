import PenPlotter.Proofs.Plotting.Instructions

/-!
The fault of a line is in the line: it depends neither on the pen nor on the canvas, and a line
that fails leaves both alone. So a program fails with the first fault of its lines.
-/

namespace PenPlotter

universe u

-----------------------------------------------------------------------------------------
-- Faults of lines
-----------------------------------------------------------------------------------------

/-- What is wrong with a line, if anything: its form, or the color that it asks for. -/
def Fault.ofLine? (line : String) : Option Fault :=
  match Instruction.parse line with
  | .error fault => some (.form fault)
  | .ok instruction => instruction.fault?

/-- What is wrong with a numbered line. -/
def RunError.ofLine? (line : Text.SourceLine) : Option RunError :=
  (Fault.ofLine? line.text).map (RunError.mk line.number)

theorem RunError.line_of_ofLine? {line : Text.SourceLine} {error : RunError}
    (known : RunError.ofLine? line = some error)
    : error.line = line.number := by
  obtain ⟨fault, -, rfl⟩ := Option.map_eq_some_iff.mp known
  rfl

/-- A line has an unknown color when it asks for one that does not exist. -/
theorem Fault.ofLine?_eq_unknownColor {line name : String}
    : Fault.ofLine? line = some (.unknownColor name)
      ↔ Instruction.parse line = .ok (.setColor name) ∧ Color.ofName? name = none := by
  rw [Fault.ofLine?]
  cases Instruction.parse line with
  | error fault => simp
  | ok instruction =>
      simp only [Except.ok.injEq, Instruction.fault?_eq_some, Fault.unknownColor.injEq]
      constructor
      · rintro ⟨_, rfl, unknown, rfl⟩
        exact ⟨rfl, unknown⟩
      · rintro ⟨rfl, unknown⟩
        exact ⟨name, rfl, unknown, rfl⟩

theorem Fault.ofLine?_eq_form {line : String} {fault : FormFault}
    : Fault.ofLine? line = some (.form fault) ↔ Instruction.parse line = .error fault := by
  rw [Fault.ofLine?]
  cases Instruction.parse line with
  | error other => simp
  | ok instruction => simp [Instruction.fault?_eq_some]

-----------------------------------------------------------------------------------------
-- Running lines
-----------------------------------------------------------------------------------------

namespace Plotter

open Outcome

variable {κ : Type u} [Canvas κ]

theorem attempt_result (plotter : Plotter κ) (line : String)
    : (plotter.attempt line).result = resultOf (Fault.ofLine? line) := by
  rw [attempt, Fault.ofLine?]
  cases Instruction.parse line with
  | error fault => rfl
  | ok instruction => exact plotter.perform_result instruction

/-- A line that fails changes nothing, whether it is malformed or its color is unknown. -/
theorem attempt_plotter_of_error {plotter : Plotter κ} {line : String} {fault : Fault}
    (failed : (plotter.attempt line).result = .error fault)
    : (plotter.attempt line).plotter = plotter := by
  rw [attempt] at failed ⊢
  cases parsed : Instruction.parse line with
  | error _ => rfl
  | ok instruction =>
      rw [parsed] at failed
      exact perform_plotter_of_error failed

/-- A numbered line fails with its own fault on every plotter. -/
theorem runLine_result (plotter : Plotter κ) (line : Text.SourceLine)
    : (plotter.runLine line).result = resultOf (RunError.ofLine? line) :=
  mapError_result (plotter.attempt_result line.text) (RunError.mk line.number)

/-- A program fails with the first fault of its lines, on every plotter. -/
theorem run_result (plotter : Plotter κ) (program : String)
    : (plotter.run program).result
      = resultOf ((Text.sourceLines program).findSome? RunError.ofLine?) :=
  each_result runLine_result plotter.reset (Text.sourceLines program)

/-- A command that is not blank is run as the line of number one. -/
theorem runCommand_eq (plotter : Plotter κ) (line : String)
    : plotter.runCommand line
      = if Text.trim line = "" then ⟨plotter, .ok ()⟩
        else (plotter.attempt (Text.trim line)).mapError (RunError.mk 1) :=
  rfl

/-- A command that fails is reported at line one and changes nothing. -/
theorem runCommand_of_error {plotter : Plotter κ} {line : String} {error : RunError}
    (failed : (plotter.runCommand line).result = .error error)
    : error.line = 1 ∧ plotter.runCommand line = ⟨plotter, .error error⟩ := by
  rw [runCommand_eq] at failed ⊢
  split at failed
  next => cases failed
  next written =>
    obtain ⟨fault, first, rfl⟩ := exists_of_mapError_error failed
    have unchanged := attempt_plotter_of_error first
    refine ⟨rfl, ?_⟩
    rw [if_neg written, mapError_of_error first, unchanged]

end Plotter

end PenPlotter
