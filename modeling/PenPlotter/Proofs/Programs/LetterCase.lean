import PenPlotter.Language.Check
import PenPlotter.Proofs.Plotting.Instructions
import PenPlotter.Proofs.Reading.LetterCase

/-!
Letter case does not matter. A folded program does what the program does and fails where it
fails, with the folded fault. Programs that agree up to case fold to the same program, so they
differ in nothing but the letters of the words that their faults quote.
-/

namespace PenPlotter

universe u

-----------------------------------------------------------------------------------------
-- Faults that differ in letter case
-----------------------------------------------------------------------------------------

/-- Two faults are the same but for the case of letters in a word that they quote. -/
inductive FormFault.AlikeButForCase : FormFault → FormFault → Prop
  | unknownCommand {word other : String} (alike : Text.AlikeButForCase word other)
    : AlikeButForCase (.unknownCommand word) (.unknownCommand other)
  | wrongCount (command : Command) (expected found : Nat)
    : AlikeButForCase (.wrongCount command expected found) (.wrongCount command expected found)
  | badArgument {word other : String} (command : Command) (position : Nat)
    (alike : Text.AlikeButForCase word other)
    : AlikeButForCase (.badArgument command position word)
        (.badArgument command position other)
  | emptyLine : AlikeButForCase .emptyLine .emptyLine

/-- The name of an unknown color is quoted in small letters, and so is the same. -/
inductive Fault.AlikeButForCase : Fault → Fault → Prop
  | form {fault other : FormFault} (alike : fault.AlikeButForCase other)
    : AlikeButForCase (.form fault) (.form other)
  | unknownColor (name : String) : AlikeButForCase (.unknownColor name) (.unknownColor name)

structure RunError.AlikeButForCase (error other : RunError) : Prop where
  line : error.line = other.line
  fault : error.fault.AlikeButForCase other.fault

structure Violation.AlikeButForCase (violation other : Violation) : Prop where
  line : violation.line = other.line
  fault : violation.fault.AlikeButForCase other.fault

/-- A fault with the word that it quotes in small letters. The name of a color was made small when
its line was read.
-/
def Fault.foldCase : Fault → Fault
  | .form fault => .form fault.foldCase
  | .unknownColor name => .unknownColor name

def RunError.foldCase (error : RunError) : RunError :=
  { error with fault := error.fault.foldCase }

def Violation.foldCase (violation : Violation) : Violation :=
  { violation with fault := violation.fault.foldCase }

/-- Faults that fold to the same fault are alike, by cases on both. -/
theorem FormFault.alikeButForCase_of_foldCase {fault other : FormFault}
    (same : fault.foldCase = other.foldCase)
    : fault.AlikeButForCase other := by
  cases fault with
  | unknownCommand word =>
      cases other with
      | unknownCommand other =>
          have folded := FormFault.unknownCommand.inj same
          exact .unknownCommand (Text.foldCase_eq_foldCase_iff.mp folded)
      | _ => cases same
  | wrongCount command expected found =>
      cases other <;> cases same
      exact .wrongCount command expected found
  | badArgument command position word =>
      cases other with
      | badArgument command position other =>
          obtain ⟨rfl, rfl, folded⟩ := FormFault.badArgument.inj same
          exact .badArgument _ _ (Text.foldCase_eq_foldCase_iff.mp folded)
      | _ => cases same
  | emptyLine =>
      cases other <;> cases same
      exact .emptyLine

theorem Fault.alikeButForCase_of_foldCase {fault other : Fault}
    (same : fault.foldCase = other.foldCase)
    : fault.AlikeButForCase other := by
  cases fault with
  | form fault =>
      cases other with
      | form other =>
          exact .form (FormFault.alikeButForCase_of_foldCase (Fault.form.inj same))
      | unknownColor name => cases same
  | unknownColor name =>
      cases other <;> cases same
      exact .unknownColor name

theorem RunError.alikeButForCase_of_foldCase {error other : RunError}
    (same : error.foldCase = other.foldCase)
    : error.AlikeButForCase other :=
  ⟨(RunError.mk.inj same).1, Fault.alikeButForCase_of_foldCase (RunError.mk.inj same).2⟩

theorem Violation.alikeButForCase_of_foldCase {violation other : Violation}
    (same : violation.foldCase = other.foldCase)
    : violation.AlikeButForCase other :=
  ⟨(Violation.mk.inj same).1, FormFault.alikeButForCase_of_foldCase (Violation.mk.inj same).2⟩

theorem Fault.AlikeButForCase.code {fault other : Fault} (alike : fault.AlikeButForCase other)
    : fault.code = other.code := by
  rcases alike with ⟨alike⟩ | name
  · cases alike <;> rfl
  · rfl

-----------------------------------------------------------------------------------------
-- Folded programs
-----------------------------------------------------------------------------------------

theorem Violation.ofLine?_foldCase (line : Text.SourceLine)
    : ofLine? line.foldCase = (ofLine? line).map foldCase := by
  rw [ofLine?, ofLine?, Text.SourceLine.foldCase, Instruction.parse_foldCase]
  cases Instruction.parse line.text <;> rfl

theorem FormReport.ofProgram_foldCase (program : String)
    : ofProgram (Text.foldCase program)
      = ⟨(ofProgram program).checked,
          (ofProgram program).violations.map Violation.foldCase⟩ := by
  simp only [ofProgram, Text.sourceLines_foldCase, List.length_map, List.filterMap_map,
    List.map_filterMap, Function.comp_def, Violation.ofLine?_foldCase]

namespace Plotter

open Outcome

variable {κ : Type u} [Canvas κ]

/-- Folding leaves the fault of an instruction alone, which can only be an unknown color. -/
theorem perform_mapError_foldCase (plotter : Plotter κ) (instruction : Instruction)
    : (plotter.perform instruction).mapError Fault.foldCase = plotter.perform instruction := by
  rw [perform_eq]
  cases known : instruction.fault? with
  | none => rfl
  | some fault =>
      obtain ⟨name, -, -, rfl⟩ := Instruction.fault?_eq_some.mp known
      rfl

theorem attempt_foldCase (plotter : Plotter κ) (line : String)
    : plotter.attempt (Text.foldCase line)
      = (plotter.attempt line).mapError Fault.foldCase := by
  rw [attempt, attempt, Instruction.parse_foldCase]
  cases Instruction.parse line with
  | error fault => rfl
  | ok instruction => exact (plotter.perform_mapError_foldCase instruction).symm

theorem runLine_foldCase (plotter : Plotter κ) (line : Text.SourceLine)
    : plotter.runLine line.foldCase = (plotter.runLine line).mapError RunError.foldCase := by
  rw [runLine, runLine, Text.SourceLine.foldCase, attempt_foldCase, mapError_mapError,
    mapError_mapError]
  rfl

theorem run_foldCase (plotter : Plotter κ) (program : String)
    : plotter.run (Text.foldCase program)
      = (plotter.run program).mapError RunError.foldCase := by
  rw [run, Text.sourceLines_foldCase]
  exact each_map runLine_foldCase plotter.reset (Text.sourceLines program)

end Plotter

/-- The whole language ignores letter case. Two programs that agree up to the case of ASCII letters
come to the same pen and canvas on every plotter, and both succeed or both fail, at the same line
and with the same code. Their errors are the same but for letters in the word of an unknown command
or of a bad argument. Checks go through as many lines, and their violations are the same in this
sense.
-/
theorem letter_case_does_not_matter {left right : String}
    (alike : Text.AlikeButForCase left right) {κ : Type u} [Canvas κ] (plotter : Plotter κ)
    : (plotter.run left).plotter = (plotter.run right).plotter
      ∧ (((plotter.run left).result = .ok () ∧ (plotter.run right).result = .ok ())
        ∨ ∃ error counterpart,
            (plotter.run left).result = .error error
            ∧ (plotter.run right).result = .error counterpart
            ∧ error.AlikeButForCase counterpart
            ∧ error.fault.code = counterpart.fault.code)
      ∧ (FormReport.ofProgram left).checked = (FormReport.ofProgram right).checked
      ∧ List.Forall₂ Violation.AlikeButForCase (FormReport.ofProgram left).violations
          (FormReport.ofProgram right).violations := by
  have folded : Text.foldCase left = Text.foldCase right :=
    Text.foldCase_eq_foldCase_iff.mpr alike
  have runs := congrArg plotter.run folded
  have reports := congrArg FormReport.ofProgram folded
  rw [Plotter.run_foldCase, Plotter.run_foldCase] at runs
  rw [FormReport.ofProgram_foldCase, FormReport.ofProgram_foldCase] at reports
  obtain ⟨checked, violations⟩ := FormReport.mk.inj reports
  obtain ⟨plotters, results⟩ := Outcome.eq_of_mapError_eq runs
  refine ⟨plotters, ?_, checked, ?_⟩
  · rcases results with succeeded | ⟨error, counterpart, failed, failed', same⟩
    · exact Or.inl succeeded
    · have near := RunError.alikeButForCase_of_foldCase same
      exact Or.inr ⟨error, counterpart, failed, failed', near, near.fault.code⟩
  · rw [← List.forall₂_eq_eq_eq, List.forall₂_map_left_iff, List.forall₂_map_right_iff]
      at violations
    exact violations.imp fun _ _ same => Violation.alikeButForCase_of_foldCase same

/-- A program that draws, sets a color and then fails at an unknown command, in two spellings. -/
theorem letter_case_does_not_matter_sample
    : let fresh : Plotter Recording := ⟨{}, {}⟩
      let left := "Circle 1E1
color RED
Bogus"
      let right := "cIRCLE 1e1
COLOR red
bOGUS"
      Text.AlikeButForCase left right
      ∧ (fresh.run left).result = .error ⟨3, .form (.unknownCommand "Bogus")⟩
      ∧ (fresh.run right).plotter = (fresh.run left).plotter
      ∧ ∃ counterpart,
          (fresh.run right).result = .error counterpart
          ∧ RunError.AlikeButForCase ⟨3, .form (.unknownCommand "Bogus")⟩ counterpart := by
  intro fresh left right
  have alike : Text.AlikeButForCase left right := by
    apply Text.foldCase_eq_foldCase_iff.mp
    subst left right
    decide +kernel
  have failed
      : (fresh.run left).result = .error ⟨3, .form (.unknownCommand "Bogus")⟩ := by
    subst fresh left
    rfl
  obtain ⟨plotters, results, -⟩ := letter_case_does_not_matter alike fresh
  refine ⟨alike, failed, plotters.symm, ?_⟩
  rcases results with ⟨succeeded, -⟩ | ⟨error, counterpart, known, failed', near, -⟩
  · rw [failed] at succeeded
    cases succeeded
  · rw [failed] at known
    obtain rfl := Except.error.inj known
    exact ⟨counterpart, failed', near⟩

end PenPlotter
