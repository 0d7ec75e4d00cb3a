import PenPlotter.Editor.Settings
import PenPlotter.Number.Decimal

/-!
Reading the settings from the arguments of a command line. Arguments are read in order and the
first fault decides. The value of an option is not looked at before the next argument that takes
effect, so an unknown argument after a bad value is the fault reported.
-/

namespace PenPlotter

/-- Why a command line gives no settings. Asking for help or for the version is among the
reasons.
-/
inductive ArgumentError where
  | unknownArgument
  | missingValue
  | notASize
  | repeated
  | unexpectedValue
  | helpAsked
  | versionAsked
deriving DecidableEq, Repr

/-- The two sides of the canvas that options set. -/
inductive Side where
  | width
  | height
deriving DecidableEq, Repr

/-- What was read last and has not taken effect. -/
inductive Pending where
  | nothing
  | program (path : String)
  | size (side : Side)
  | sizeValue (side : Side) (word : String)
deriving DecidableEq, Repr

/-- A command line read so far. -/
structure CommandLine where
  program : Option String := none
  width : Option Nat := none
  height : Option Nat := none
  run : Bool := false
  pending : Pending := .nothing
  programSeen : Bool := false
  optionsEnded : Bool := false
deriving DecidableEq, Repr

namespace CommandLine

def maxSize : Nat :=
  4294967295

/-- A size: digits with an optional sign, up to the largest size. A minus sign is good for zero
only.
-/
def size? (word : String) : Option Nat :=
  let (negative, digits) := Numeral.takeSign word.toList
  if digits = [] || !digits.all Char.isDigit then none
  else
    let size := Nat.ofDigitChars 10 digits 0
    if maxSize < size || (negative && size != 0) then none else some size

/-- Gives a side its size, once. -/
def setSize (line : CommandLine) : Side → String → Except ArgumentError CommandLine
  | .width, word =>
      if line.width.isSome then .error .repeated
      else match size? word with
        | none => .error .notASize
        | some size => .ok { line with width := some size }
  | .height, word =>
      if line.height.isSome then .error .repeated
      else match size? word with
        | none => .error .notASize
        | some size => .ok { line with height := some size }

/-- Lets what is pending take effect. -/
def settle (line : CommandLine) : Except ArgumentError CommandLine :=
  let settled := { line with pending := .nothing }
  match line.pending with
  | .nothing => .ok line
  | .program path =>
      if path = "" then .error .missingValue else .ok { settled with program := some path }
  | .size _ => .error .missingValue
  | .sizeValue side word => settled.setSize side word

/-- Reads an option that sets a side, with or without a value attached. -/
def readSize (line : CommandLine) (side : Side) : Option String → Except ArgumentError CommandLine
  | some word => do (← line.settle).setSize side word
  | none => do return { ← line.settle with pending := .size side }

/-- Refuses a value attached to an option that takes none. -/
def refuseValue : Option String → Except ArgumentError Unit
  | some _ => .error .unexpectedValue
  | none => .ok ()

def readLong (line : CommandLine) (name : String) (value : Option String)
    : Except ArgumentError CommandLine := do
  match name with
  | "width" => line.readSize .width value
  | "height" => line.readSize .height value
  | "run" =>
      refuseValue value
      let settled ← line.settle
      if settled.run then .error .repeated else .ok { settled with run := true }
  | "help" =>
      refuseValue value
      let _ ← line.settle
      .error .helpAsked
  | "version" =>
      refuseValue value
      let _ ← line.settle
      .error .versionAsked
  | _ => .error .unknownArgument

/-- Reads options by their short names. The first letter decides, since either of the two that
are known ends the reading.
-/
def readShort (line : CommandLine) : Option Char → Except ArgumentError CommandLine
  | some 'h' => do
      let _ ← line.settle
      .error .helpAsked
  | some 'V' => do
      let _ ← line.settle
      .error .versionAsked
  | _ => .error .unknownArgument

/-- Reads a word that is no option: the value that an option waits for, or else the program
file, of which there is one.
-/
def readWord (line : CommandLine) (word : String) : Except ArgumentError CommandLine :=
  match line.optionsEnded, line.pending with
  | false, .size side => .ok { line with pending := .sizeValue side word }
  | _, _ =>
      if line.programSeen then .error .unknownArgument
      else do return { ← line.settle with pending := .program word, programSeen := true }

/-- A long option cut at its first equals sign. -/
def cutValue (chars : List Char) : String × Option String :=
  let name := chars.takeWhile (· != '=')
  let value := match chars.dropWhile (· != '=') with
    | [] => none
    | _ :: value => some (String.ofList value)
  (String.ofList name, value)

/-- Reads one argument. Two hyphens by themselves end the options, and one is a word. -/
def read (line : CommandLine) (argument : String) : Except ArgumentError CommandLine :=
  if line.optionsEnded then line.readWord argument
  else
    match argument.toList with
    | ['-', '-'] => .ok { line with optionsEnded := true }
    | '-' :: '-' :: long => line.readLong (cutValue long).1 (cutValue long).2
    | ['-'] => line.readWord argument
    | '-' :: short => line.readShort short.head?
    | _ => line.readWord argument

/-- The settings that a whole command line asks for. No side is shorter than one, and without a
program file there is nothing to run.
-/
def settings (line : CommandLine) : Settings :=
  let base : Settings := {}
  { base with
    programPath := line.program.getD base.programPath
    canvasWidth := (line.width.map fun size => BinaryFloat.ofNat (max size 1)).getD base.canvasWidth
    canvasHeight :=
      (line.height.map fun size => BinaryFloat.ofNat (max size 1)).getD base.canvasHeight
    runOnStart := line.run && line.program.isSome }

end CommandLine

def Settings.ofArguments (arguments : List String) : Except ArgumentError Settings := do
  let line ← arguments.foldlM CommandLine.read {}
  return (← line.settle).settings

end PenPlotter
