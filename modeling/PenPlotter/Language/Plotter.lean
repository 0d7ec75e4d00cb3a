import PenPlotter.Language.Parse
import PenPlotter.Language.Pen
import PenPlotter.Picture.Recording
import PenPlotter.Text.Lines

/-!
A plotter moves a pen over a canvas. Instructions are carried out one at a time; a program is
run from a fresh pen up to its first fault, and what was drawn before the fault stays.
-/

namespace PenPlotter

universe u

/-- A pen and the canvas it draws on. -/
structure Plotter (κ : Type u) where
  pen : Pen := {}
  canvas : κ
deriving DecidableEq, Repr

/-- What an attempt came to: the plotter afterwards, whether or not it failed. -/
structure Outcome (κ : Type u) (ε : Type) where
  plotter : Plotter κ
  result : Except ε Unit

namespace Outcome

variable {κ : Type u} {ε δ : Type}

/-- Goes on from the plotter that an attempt left, unless the attempt failed. -/
def andThen (outcome : Outcome κ ε) (next : Plotter κ → Outcome κ ε) : Outcome κ ε :=
  match outcome.result with
  | .ok () => next outcome.plotter
  | .error _ => outcome

/-- The same attempt with its fault told in another way. -/
def mapError (describe : ε → δ) (outcome : Outcome κ ε) : Outcome κ δ :=
  ⟨outcome.plotter, outcome.result.mapError describe⟩

end Outcome

namespace Plotter

variable {κ : Type u}

/-- Takes a step for each item in order, up to the first step that fails. -/
def each {α ε : Type} (step : Plotter κ → α → Outcome κ ε) (plotter : Plotter κ)
    : List α → Outcome κ ε
  | [] => ⟨plotter, .ok ()⟩
  | item :: items => (step plotter item).andThen fun next => each step next items

/-- A plotter with a fresh pen. The canvas is left alone. -/
def reset (plotter : Plotter κ) : Plotter κ :=
  { plotter with pen := {} }

def moveTo (plotter : Plotter κ) (target : Point) : Plotter κ :=
  { plotter with pen := { plotter.pen with position := target } }

/-- A plotter whose canvas has taken a call. -/
def callCanvas (plotter : Plotter κ) (call : κ → κ) : Plotter κ :=
  { plotter with canvas := call plotter.canvas }

variable [Canvas κ]

/-- Carries out an instruction. Only drawing a line moves the pen along with it; shapes leave
the pen where it is.
-/
def perform (plotter : Plotter κ) : Instruction → Outcome κ Fault
  | .moveTo target => ⟨plotter.moveTo target, .ok ()⟩
  | .drawTo target =>
      let line := Canvas.drawLine plotter.pen.position target plotter.pen.color
      ⟨(plotter.callCanvas line).moveTo target, .ok ()⟩
  | .clear => ⟨plotter.callCanvas Canvas.wipe, .ok ()⟩
  | .rectangle box =>
      ⟨plotter.callCanvas (Canvas.drawRectangle box plotter.pen.color plotter.pen.fill), .ok ()⟩
  | .circle radius =>
      let box := Box.around plotter.pen.position radius
      ⟨plotter.callCanvas (Canvas.drawEllipse box plotter.pen.color plotter.pen.fill), .ok ()⟩
  | .triangle first second third =>
      let vertices := [first, second, third]
      ⟨plotter.callCanvas (Canvas.drawPolygon vertices plotter.pen.color plotter.pen.fill),
        .ok ()⟩
  | .setColor name =>
      match Color.ofName? name with
      | some color => ⟨{ plotter with pen := { plotter.pen with color } }, .ok ()⟩
      | none => ⟨plotter, .error (.unknownColor name)⟩
  | .setFill enabled => ⟨{ plotter with pen := { plotter.pen with fill := enabled } }, .ok ()⟩

def attempt (plotter : Plotter κ) (line : String) : Outcome κ Fault :=
  match Instruction.parse line with
  | .error fault => ⟨plotter, .error (.form fault)⟩
  | .ok instruction => plotter.perform instruction

/-- Runs a line that is not blank. A fault is reported with the number of the line. -/
def runLine (plotter : Plotter κ) (line : Text.SourceLine) : Outcome κ RunError :=
  (plotter.attempt line.text).mapError (RunError.mk line.number)

/-- Runs lines in order up to the first that fails. -/
def runLines (plotter : Plotter κ) (lines : List Text.SourceLine) : Outcome κ RunError :=
  plotter.each runLine lines

/-- Runs a whole program with a fresh pen. -/
def run (plotter : Plotter κ) (program : String) : Outcome κ RunError :=
  plotter.reset.runLines (Text.sourceLines program)

/-- Runs a single line with the pen as it is. A blank line does nothing. -/
def runCommand (plotter : Plotter κ) (line : String) : Outcome κ RunError :=
  let text := Text.trim line
  if text = "" then ⟨plotter, .ok ()⟩ else plotter.runLine ⟨1, text⟩

/-- Runs a program on an empty recording. -/
def record (program : String) : Outcome Recording RunError :=
  run ⟨{}, {}⟩ program

end Plotter

end PenPlotter
