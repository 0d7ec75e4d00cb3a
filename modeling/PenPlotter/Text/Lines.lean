import PenPlotter.Text.Blank
import PenPlotter.Text.Pieces

/-!
A program is read line by line. A line ends at a line feed, or at a carriage return and a line
feed, and the last line need not be ended. Blank lines are skipped but counted, so the numbers
are those that an editor shows.
-/

namespace PenPlotter.Text

/-- The lines of a text without what ends them. A carriage return belongs to the line feed right
after it, and nothing follows a final line feed.
-/
def splitLines : List Char → List (List Char)
  | [] => []
  | c :: rest =>
      if c = '\n' then [] :: splitLines rest
      else if c = '\r' && rest.head? = some '\n' then splitLines rest
      else joinFirst c (splitLines rest)

/-- A line that is not blank, trimmed, with its number from 1. -/
structure SourceLine where
  number : Nat
  text : String
deriving DecidableEq, Repr

/-- Of lines that are numbered on from a first number, those that hold anything. -/
def numberLines (first : Nat) (lines : List (List Char)) : List SourceLine :=
  ((lines.zipIdx first).map fun line =>
    SourceLine.mk line.2 (String.ofList (trimChars line.1))).filter fun line => line.text != ""

/-- The lines of a program that hold anything, in order, numbered among all of its lines. -/
def sourceLines (text : String) : List SourceLine :=
  numberLines 1 (splitLines text.toList)

end PenPlotter.Text
