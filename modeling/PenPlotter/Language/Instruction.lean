import PenPlotter.Language.Argument
import PenPlotter.Picture.Geometry

/-!
An instruction is a command with its arguments in place. It holds values only, never the words
they were read from.
-/

namespace PenPlotter

/-- What one line of a program asks for. -/
inductive Instruction where
  | moveTo (target : Point)
  | drawTo (target : Point)
  | clear
  | rectangle (box : Box)
  | circle (radius : Float)
  | triangle (first second third : Point)
  | setColor (name : String)
  | setFill (enabled : Bool)
deriving DecidableEq, Repr

namespace Instruction

def command : Instruction → Command
  | .moveTo _ => .moveTo
  | .drawTo _ => .drawTo
  | .clear => .clear
  | .rectangle _ => .rectangle
  | .circle _ => .circle
  | .triangle .. => .triangle
  | .setColor _ => .color
  | .setFill _ => .fill

/-- A shape is an instruction that is drawn filled or not. -/
def isShape : Instruction → Bool
  | .rectangle _ | .circle _ | .triangle .. => true
  | _ => false

/-- The instruction of a command with arguments of its signature, in written order. -/
def ofArguments : (command : Command) → Arguments command.signature → Instruction
  | .moveTo, (x, y, ()) => .moveTo ⟨x, y⟩
  | .drawTo, (x, y, ()) => .drawTo ⟨x, y⟩
  | .clear, () => .clear
  | .rectangle, (x, y, width, height, ()) => .rectangle ⟨x, y, width, height⟩
  | .circle, (radius, ()) => .circle radius
  | .triangle, (x₁, y₁, x₂, y₂, x₃, y₃, ()) => .triangle ⟨x₁, y₁⟩ ⟨x₂, y₂⟩ ⟨x₃, y₃⟩
  | .color, (name, ()) => .setColor name
  | .fill, (enabled, ()) => .setFill enabled

end Instruction

end PenPlotter
