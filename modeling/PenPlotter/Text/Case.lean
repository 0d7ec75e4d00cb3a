/-!
Letter case matters to no keyword of the language. Two texts are spelled alike when they become
equal once the twenty-six capital letters of ASCII are made small; all other characters count as
they stand.
-/

namespace PenPlotter.Text

/-- A text with its ASCII capitals made small. -/
def foldCase (text : String) : String :=
  String.ofList (text.toList.map Char.toLower)

/-- Two texts are spelled alike when they agree up to the case of ASCII letters. -/
def spelledAlike (left right : String) : Bool :=
  foldCase left == foldCase right

/-- The fifty-two letters of ASCII. -/
def isLetter (c : Char) : Bool :=
  c.isAlpha

end PenPlotter.Text
