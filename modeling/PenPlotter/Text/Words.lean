import PenPlotter.Text.Blank

/-!
The words of a text are its maximal runs of characters that are not blank. Cutting into words
never fails: whatever is not blank belongs to some word.
-/

namespace PenPlotter.Text

/-- The first word begins at once when the text does not begin with a blank. -/
def startsInWord : List Char → Bool
  | [] => false
  | c :: _ => !isBlank c

/-- A letter put in front lengthens the first word that touches it, and is otherwise a word of
its own.
-/
def attach (c : Char) (touching : Bool) : List (List Char) → List (List Char)
  | [] => [[c]]
  | word :: words => if touching then (c :: word) :: words else [c] :: word :: words

/-- The words of a list of characters, by recursion on the list. -/
def wordChars : List Char → List (List Char)
  | [] => []
  | c :: rest =>
      if isBlank c then wordChars rest
      else attach c (startsInWord rest) (wordChars rest)

def words (text : String) : List String :=
  (wordChars text.toList).map String.ofList

end PenPlotter.Text
