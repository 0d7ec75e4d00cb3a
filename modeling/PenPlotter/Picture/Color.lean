import PenPlotter.Text.Case

/-!
Pen colors. Some colors have names in a fixed table, a few of them more than one; the first name
in the table is the one a color is written with, and a color without a name is written in
hexadecimal.
-/

namespace PenPlotter

/-- An opaque color, as the brightness of its three channels. -/
structure Color where
  red : UInt8
  green : UInt8
  blue : UInt8
deriving DecidableEq, Repr

namespace Color

/-- The color of a pen that nobody has set. -/
def black : Color :=
  ⟨0, 0, 0⟩

/-- The color of the sheet. -/
def white : Color :=
  ⟨255, 255, 255⟩

/-- The named colors in the order of the table, with their names in small letters. -/
def table : List (String × Color) :=
  [("black", black), ("white", white), ("red", ⟨255, 0, 0⟩), ("green", ⟨0, 128, 0⟩),
    ("blue", ⟨0, 0, 255⟩), ("yellow", ⟨255, 255, 0⟩), ("cyan", ⟨0, 255, 255⟩),
    ("magenta", ⟨255, 0, 255⟩), ("orange", ⟨255, 165, 0⟩), ("purple", ⟨128, 0, 128⟩),
    ("pink", ⟨255, 192, 203⟩), ("brown", ⟨165, 42, 42⟩), ("gray", ⟨128, 128, 128⟩),
    ("grey", ⟨128, 128, 128⟩), ("lime", ⟨0, 255, 0⟩), ("navy", ⟨0, 0, 128⟩),
    ("teal", ⟨0, 128, 128⟩), ("maroon", ⟨128, 0, 0⟩), ("olive", ⟨128, 128, 0⟩),
    ("silver", ⟨192, 192, 192⟩), ("gold", ⟨255, 215, 0⟩)]

def names : List String :=
  table.map Prod.fst

/-- The color with a given name, in any letter case. -/
def ofName? (name : String) : Option Color :=
  (table.find? fun entry => Text.spelledAlike entry.1 name).map Prod.snd

/-- The first name of a color, if it has one. -/
def name? (color : Color) : Option String :=
  (table.find? fun entry => entry.2 = color).map Prod.fst

/-- A channel as two hexadecimal digits. -/
def channelText (channel : UInt8) : String :=
  String.ofList [Nat.digitChar (channel.toNat / 16), Nat.digitChar (channel.toNat % 16)]

/-- A color as its name, or else as a number sign and six hexadecimal digits. -/
def text (color : Color) : String :=
  color.name?.getD
    ("#" ++ channelText color.red ++ channelText color.green ++ channelText color.blue)

end Color

end PenPlotter
