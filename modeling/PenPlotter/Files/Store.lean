import PenPlotter.Files.Tree

/-!
Programs are kept as text in files. Reading gives exactly the text whose UTF-8 bytes the file
holds, and writing leaves exactly the bytes of the text.
-/

namespace PenPlotter

/-- A program that could not be read or written, with its path as it was given. -/
inductive StoreError where
  | read (path : String) (cause : FileError)
  | write (path : String) (cause : FileError)
deriving DecidableEq, Repr

namespace StoreError

def message : StoreError → String
  | .read path cause => "could not read `" ++ path ++ "`: " ++ cause.message
  | .write path cause => "could not write `" ++ path ++ "`: " ++ cause.message

end StoreError

namespace FileTree

/-- The text of the file that a path names. -/
def load (tree : FileTree) (path : String) : Except StoreError String :=
  match tree.readBytes path with
  | .error cause => .error (.read path cause)
  | .ok content =>
      match String.fromUTF8? content with
      | some text => .ok text
      | none => .error (.read path .notText)

/-- The tree after a text was written to a file. -/
def save (tree : FileTree) (path text : String) : Except StoreError FileTree :=
  (tree.writeBytes path text.toUTF8).mapError (.write path)

end FileTree

end PenPlotter
