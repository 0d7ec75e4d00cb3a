import PenPlotter.Language.Parse
import PenPlotter.Text.Lines

/-!
Checking the form of a whole program. Every line is read and every failure is listed; nothing is
run, so a color that does not exist is no matter of this check.
-/

namespace PenPlotter

structure Violation where
  line : Nat
  fault : FormFault
deriving DecidableEq, Repr

namespace Violation

def message (violation : Violation) : String :=
  "line " ++ toString violation.line ++ ": [" ++ violation.fault.code.text ++ "] "
    ++ violation.fault.message

end Violation

/-- The outcome of a check: how many lines hold anything, and which of them are malformed. -/
structure FormReport where
  checked : Nat
  violations : List Violation
deriving DecidableEq, Repr

namespace FormReport

/-- A program is well formed when no line is malformed. -/
def isValid (report : FormReport) : Bool :=
  report.violations.isEmpty

/-- The text of a report, with a line for each violation. -/
def message (report : FormReport) : String :=
  if report.isValid then "syntax ok (" ++ toString report.checked ++ " lines)"
  else "\n".intercalate (report.violations.map Violation.message)

end FormReport

/-- The violation of a line, if it is malformed. -/
def Violation.ofLine? (line : Text.SourceLine) : Option Violation :=
  match Instruction.parse line.text with
  | .ok _ => none
  | .error fault => some ⟨line.number, fault⟩

def FormReport.ofProgram (program : String) : FormReport :=
  let lines := Text.sourceLines program
  ⟨lines.length, lines.filterMap Violation.ofLine?⟩

end PenPlotter
