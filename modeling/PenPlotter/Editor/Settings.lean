import PenPlotter.Number.BinaryFormat
import PenPlotter.Picture.Color

/-!
The settings that the editor starts with: a program file, the two sides of the canvas and the
color of the sheet, and whether to run the program at once.
-/

namespace PenPlotter

structure Settings where
  programPath : String := "program.txt"
  canvasWidth : Float32 := BinaryFloat.ofNat 640
  canvasHeight : Float32 := BinaryFloat.ofNat 480
  background : Color := .white
  runOnStart : Bool := false
deriving DecidableEq, Repr

end PenPlotter
