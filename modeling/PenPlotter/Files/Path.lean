import PenPlotter.Text.Pieces

/-!
Places in a tree of files and folders, and the paths that name them. A path is a row of names
between slashes. It starts at the working folder, or at the top when it begins with a slash.
-/

namespace PenPlotter

/-- Why a file could not be reached, read or written. -/
inductive FileError where
  | notFound
  | notAFolder
  | isAFolder
  | nameTooLong
  | notText
  | nulInName
deriving DecidableEq, Repr

namespace FileError

/-- The text of an error, with the number of the system's own errors. -/
def message : FileError → String
  | .notFound => "No such file or directory (os error 2)"
  | .notAFolder => "Not a directory (os error 20)"
  | .isAFolder => "Is a directory (os error 21)"
  | .nameTooLong => "File name too long (os error 36)"
  | .notText => "stream did not contain valid UTF-8"
  | .nulInName => "file name contained an unexpected NUL byte"

end FileError

/-- A place in the tree, as the names from it up to the top, innermost first. -/
abbrev Place := List String

namespace Place

def top : Place :=
  []

/-- The working folder. It lies below the top under a name that no path can spell, since the
names in a path are not empty.
-/
def working : Place :=
  [""]

end Place

/-- A path taken apart: where it starts, its names, and whether it ends in a slash. -/
structure Path where
  start : Place
  names : List String
  endsInSlash : Bool
deriving DecidableEq, Repr

namespace Path

def maxNameSize : Nat :=
  255

def maxPathSize : Nat :=
  4095

/-- Takes a path apart. Slashes next to one another count as one. -/
def ofText (text : String) : Except FileError Path :=
  let chars := text.toList
  if chars.contains (Char.ofNat 0) then .error .nulInName
  else if chars.isEmpty then .error .notFound
  else if maxPathSize < text.utf8ByteSize then .error .nameTooLong
  else
    .ok {
      start := if chars.head? = some '/' then .top else .working
      names := ((Text.pieces '/' chars).filter (· != [])).map String.ofList
      endsInSlash := chars.getLast? = some '/'
    }

end Path

end PenPlotter
