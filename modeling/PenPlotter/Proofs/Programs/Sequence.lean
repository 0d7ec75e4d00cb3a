import PenPlotter.Language.Check
import PenPlotter.Proofs.Plotting.Steps
import PenPlotter.Proofs.Text.SourceLines

/-!
One program after another in one text. The lines of the second are numbered on from those of the
first and are otherwise as they were, so a check finds the violations of both, and a run goes on
with the second where the first led.
-/

namespace PenPlotter

universe u

/-- The same line further down. -/
def Text.SourceLine.shift (k : Nat) (line : SourceLine) : SourceLine :=
  { line with number := line.number + k }

/-- The same violation further down. -/
def Violation.shift (k : Nat) (violation : Violation) : Violation :=
  { violation with line := violation.line + k }

/-- The same error further down. -/
def RunError.shift (k : Nat) (error : RunError) : RunError :=
  { error with line := error.line + k }

-----------------------------------------------------------------------------------------
-- Lines
-----------------------------------------------------------------------------------------

namespace Text

/-- Lines that are numbered from further on are the same lines further down, by induction on
them.
-/
theorem numberLines_add (first k : Nat) (lines : List (List Char))
    : numberLines (first + k) lines = (numberLines first lines).map (SourceLine.shift k) := by
  induction lines generalizing first with
  | nil => rfl
  | cons line lines ih =>
      rw [numberLines_cons, numberLines_cons, Nat.add_right_comm, ih]
      split <;> rfl

/-- As many lines stand before the second text as the first has pieces, blank ones included. -/
theorem sourceLines_append (first second : String)
    : sourceLines (first ++ "\n" ++ second)
      = sourceLines first
        ++ (sourceLines second).map (SourceLine.shift (first.toList.count '\n' + 1)) := by
  have characters
      : (first ++ "\n" ++ second).toList = first.toList ++ '\n' :: second.toList := by
    simp
  simp only [sourceLines_eq_numberLines, characters, pieces_append_cons, numberLines_append,
    length_pieces, numberLines_add]

end Text

-----------------------------------------------------------------------------------------
-- Checks and runs
-----------------------------------------------------------------------------------------

theorem Violation.ofLine?_shift (k : Nat) (line : Text.SourceLine)
    : ofLine? (line.shift k) = (ofLine? line).map (shift k) := by
  rw [ofLine?, ofLine?, Text.SourceLine.shift]
  cases Instruction.parse line.text <;> rfl

theorem FormReport.ofProgram_append (first second : String)
    : ofProgram (first ++ "\n" ++ second)
      = ⟨(ofProgram first).checked + (ofProgram second).checked,
          (ofProgram first).violations
            ++ (ofProgram second).violations.map
              (Violation.shift (first.toList.count '\n' + 1))⟩ := by
  have later (lines : List Text.SourceLine) (k : Nat)
      : (lines.map (Text.SourceLine.shift k)).filterMap Violation.ofLine?
        = (lines.filterMap Violation.ofLine?).map (Violation.shift k) := by
    simp only [List.filterMap_map, List.map_filterMap, Function.comp_def,
      Violation.ofLine?_shift]
  simp only [ofProgram, Text.sourceLines_append, List.length_append, List.length_map,
    List.filterMap_append, later]

namespace Plotter

open Outcome

variable {κ : Type u} [Canvas κ]

/-- A line further down is run as it was, and its fault is reported there. -/
theorem runLine_shift (plotter : Plotter κ) (k : Nat) (line : Text.SourceLine)
    : plotter.runLine (line.shift k) = (plotter.runLine line).mapError (RunError.shift k) := by
  rw [runLine, runLine, mapError_mapError]
  rfl

theorem runLines_shift (plotter : Plotter κ) (k : Nat) (lines : List Text.SourceLine)
    : plotter.runLines (lines.map (Text.SourceLine.shift k))
      = (plotter.runLines lines).mapError (RunError.shift k) :=
  each_map (fun plotter line => plotter.runLine_shift k line) plotter lines

theorem run_append (plotter : Plotter κ) (first second : String)
    : plotter.run (first ++ "\n" ++ second)
      = (plotter.run first).andThen fun next =>
          (next.runLines (Text.sourceLines second)).mapError
            (RunError.shift (first.toList.count '\n' + 1)) := by
  rw [run, Text.sourceLines_append, runLines, each_append]
  simp only [← runLines_shift]
  rfl

/-- Programs compose in sequence. In the text of two programs with a line feed between them, the
lines of the second are those it has by itself, further down by the number of all lines of the
first. A check counts the lines of both and lists the violations of the first and then those of
the second. A run that fails in the first is the run of the first. Any other goes on with the
lines of the second, from the pen and the canvas that the first left, and reports a fault of
theirs further down.
-/
theorem programs_compose (plotter : Plotter κ) (first second : String)
    : let both := first ++ "\n" ++ second
      let k := first.toList.count '\n' + 1
      Text.sourceLines both
        = Text.sourceLines first
          ++ (Text.sourceLines second).map (Text.SourceLine.shift k)
      ∧ (FormReport.ofProgram both).checked
        = (FormReport.ofProgram first).checked + (FormReport.ofProgram second).checked
      ∧ (FormReport.ofProgram both).violations
        = (FormReport.ofProgram first).violations
          ++ (FormReport.ofProgram second).violations.map (Violation.shift k)
      ∧ (∀ error,
          (plotter.run first).result = .error error → plotter.run both = plotter.run first)
      ∧ ((plotter.run first).result = .ok ()
        → plotter.run both
          = ((plotter.run first).plotter.runLines (Text.sourceLines second)).mapError
              (RunError.shift k)) := by
  intro both k
  have report := FormReport.ofProgram_append first second
  have whole := plotter.run_append first second
  refine ⟨Text.sourceLines_append first second, ?_, ?_, ?_, ?_⟩
  · exact congrArg FormReport.checked report
  · exact congrArg FormReport.violations report
  · intro error failed
    exact whole.trans (andThen_of_error failed _)
  · intro succeeded
    exact whole.trans (andThen_of_ok succeeded _)

/-- A first program that ends in a carriage return and a blank line, and one that fails. -/
theorem programs_compose_samples
    : let fresh : Plotter Recording := ⟨{}, {}⟩
      let second := "clear\ncolor puce"
      let left : Plotter Recording := ⟨⟨.origin, ⟨255, 0, 0⟩, false⟩, {}⟩
      ((fresh.run "color red\r\n").result = .ok ()
        ∧ fresh.run ("color red\r\n" ++ "\n" ++ second)
          = (left.runLines (Text.sourceLines second)).mapError (RunError.shift 2)
        ∧ (fresh.run ("color red\r\n" ++ "\n" ++ second)).result
          = .error ⟨4, .unknownColor "puce"⟩)
      ∧ (fresh.run "bogus").result = .error ⟨1, .form (.unknownCommand "bogus")⟩
      ∧ fresh.run ("bogus" ++ "\n" ++ second) = fresh.run "bogus" := by
  intro fresh second left
  have runs : (fresh.run "color red\r\n").result = .ok () := by
    subst fresh
    rfl
  have stops : (fresh.run "bogus").result = .error ⟨1, .form (.unknownCommand "bogus")⟩ := by
    subst fresh
    rfl
  obtain ⟨-, -, -, -, onward⟩ := programs_compose fresh "color red\r\n" second
  obtain ⟨-, -, -, halted, -⟩ := programs_compose fresh "bogus" second
  have whole := onward runs
  refine ⟨⟨runs, whole, ?_⟩, stops, halted _ stops⟩
  rw [whole]
  subst fresh second
  rfl

end Plotter

end PenPlotter
