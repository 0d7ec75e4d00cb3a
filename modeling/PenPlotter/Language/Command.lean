import PenPlotter.Text.Case

/-!
The commands of the language. A command is written as its keyword and a fixed number of
arguments, and its signature gives the kind of each argument in turn.
-/

namespace PenPlotter

/-- What a word must spell to be an argument. -/
inductive ArgumentKind where
  | number
  | colorName
  | toggle
deriving DecidableEq, Repr

inductive Command where
  | moveTo
  | drawTo
  | clear
  | rectangle
  | circle
  | triangle
  | color
  | fill
deriving DecidableEq, Repr

namespace Command

/-- All commands, in the order in which they are listed to the user. -/
def all : List Command :=
  [.moveTo, .drawTo, .clear, .rectangle, .circle, .triangle, .color, .fill]

/-- The keyword of a command, in small letters. -/
def keyword : Command → String
  | .moveTo => "moveto"
  | .drawTo => "drawto"
  | .clear => "clear"
  | .rectangle => "rectangle"
  | .circle => "circle"
  | .triangle => "triangle"
  | .color => "color"
  | .fill => "fill"

/-- The kinds of the arguments, in written order. -/
@[reducible] def signature : Command → List ArgumentKind
  | .moveTo | .drawTo => [.number, .number]
  | .clear => []
  | .rectangle => [.number, .number, .number, .number]
  | .circle => [.number]
  | .triangle => [.number, .number, .number, .number, .number, .number]
  | .color => [.colorName]
  | .fill => [.toggle]

def arity (command : Command) : Nat :=
  command.signature.length

/-- A reminder of how a command is written. -/
def usage : Command → String
  | .moveTo => "moveto x y"
  | .drawTo => "drawto x y"
  | .clear => "clear"
  | .rectangle => "rectangle x y width height"
  | .circle => "circle radius"
  | .triangle => "triangle x1 y1 x2 y2 x3 y3"
  | .color => "color name"
  | .fill => "fill on|off"

/-- The command whose keyword a word is, in any letter case. -/
def ofKeyword? (word : String) : Option Command :=
  all.find? fun command => Text.spelledAlike command.keyword word

end Command

end PenPlotter
