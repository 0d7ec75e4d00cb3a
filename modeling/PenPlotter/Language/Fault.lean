import PenPlotter.Language.Command

/-!
What can be wrong with a program. A line may be malformed, which is seen without running it, or
it may ask for a color that does not exist, which is seen when the line is run. Each kind of
fault has a code, and a text for the user.
-/

namespace PenPlotter

/-- The codes that name the kinds of faults. -/
inductive FaultCode where
  | P001
  | P002
  | P003
  | P004
  | R001
deriving DecidableEq, Repr

namespace FaultCode

def text : FaultCode → String
  | .P001 => "P001"
  | .P002 => "P002"
  | .P003 => "P003"
  | .P004 => "P004"
  | .R001 => "R001"

/-- The codes of malformed lines, as opposed to those of lines that cannot be run. -/
def isOfForm : FaultCode → Bool
  | .P001 | .P002 | .P003 | .P004 => true
  | .R001 => false

end FaultCode

/-- Why a line is no instruction. Words are kept as they were written, and positions of
arguments count from zero.
-/
inductive FormFault where
  | unknownCommand (word : String)
  | wrongCount (command : Command) (expected found : Nat)
  | badArgument (command : Command) (position : Nat) (word : String)
  | emptyLine
deriving DecidableEq, Repr

namespace FormFault

def code : FormFault → FaultCode
  | .unknownCommand _ => .P001
  | .wrongCount .. => .P002
  | .badArgument .. => .P003
  | .emptyLine => .P004

/-- The text of a malformed line. Positions are shown from one. -/
def message : FormFault → String
  | .unknownCommand word => "unknown command `" ++ word ++ "`"
  | .wrongCount command expected found =>
      "`" ++ command.keyword ++ "` expects " ++ toString expected ++ " argument(s), got "
        ++ toString found
  | .badArgument command position word =>
      "`" ++ command.keyword ++ "` argument " ++ toString (position + 1) ++ " is invalid: `"
        ++ word ++ "`"
  | .emptyLine => "empty line"

end FormFault

/-- Why a line cannot be carried out. -/
inductive Fault where
  | form (fault : FormFault)
  | unknownColor (name : String)
deriving DecidableEq, Repr

namespace Fault

def code : Fault → FaultCode
  | .form fault => fault.code
  | .unknownColor _ => .R001

def message : Fault → String
  | .form fault => fault.message
  | .unknownColor name => "unknown color `" ++ name ++ "`"

/-- What is malformed, unless the line is well formed. -/
def form? : Fault → Option FormFault
  | .form fault => some fault
  | .unknownColor _ => none

end Fault

/-- A fault at a line, numbered from one with blank lines counted. -/
structure RunError where
  line : Nat
  fault : Fault
deriving DecidableEq, Repr

namespace RunError

def message (error : RunError) : String :=
  "[" ++ error.fault.code.text ++ "] line " ++ toString error.line ++ " — "
    ++ error.fault.message

end RunError

end PenPlotter
