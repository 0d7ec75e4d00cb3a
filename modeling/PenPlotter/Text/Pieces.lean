/-!
Cutting a text at every occurrence of one character. There is one more piece than there are
cuts, and pieces may be empty.
-/

namespace PenPlotter.Text

/-- A character in front of a text joins its first piece. -/
def joinFirst (c : Char) : List (List Char) → List (List Char)
  | [] => [[c]]
  | piece :: pieces => (c :: piece) :: pieces

/-- The pieces of a text between separators. -/
def pieces (separator : Char) : List Char → List (List Char)
  | [] => [[]]
  | c :: rest =>
      if c = separator then [] :: pieces separator rest else joinFirst c (pieces separator rest)

/-- A text has a piece even when it is empty, by cases on its first character. -/
theorem pieces_ne_nil (separator : Char) (chars : List Char)
    : pieces separator chars ≠ [] := by
  cases chars with
  | nil => simp [pieces]
  | cons c rest =>
      rw [pieces]
      split
      · simp
      · cases pieces separator rest <;> simp [joinFirst]

end PenPlotter.Text
