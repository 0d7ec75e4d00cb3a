import PenPlotter.Files.Path

/-!
A tree of files and folders. A path is followed name by name: a single dot stays, two dots go up,
and the top is above itself. What a path can run into along the way decides its error.
-/

namespace PenPlotter

inductive FileEntry where
  | folder
  | file (content : ByteArray)

/-- Places with what they hold. Of two entries for one place the earlier one counts. -/
structure FileTree where
  entries : List (Place × FileEntry)

namespace FileTree

/-- The tree with nothing but the top and the working folder. -/
def empty : FileTree :=
  ⟨[(.working, .folder), (.top, .folder)]⟩

def entry? (tree : FileTree) (place : Place) : Option FileEntry :=
  tree.entries.lookup place

/-- The tree after a place was given something to hold. -/
def put (tree : FileTree) (place : Place) (entry : FileEntry) : FileTree :=
  ⟨(place, entry) :: tree.entries⟩

/-- The place that a name leads to from another place, which must be a folder. Names other than
the two made of dots must be there.
-/
def enter (tree : FileTree) (place : Place) (name : String) : Except FileError Place :=
  match tree.entry? place with
  | none => .error .notFound
  | some (.file _) => .error .notAFolder
  | some .folder =>
      if name = "." then .ok place
      else if name = ".." then .ok place.tail
      else if Path.maxNameSize < name.utf8ByteSize then .error .nameTooLong
      else if (tree.entry? (name :: place)).isNone then .error .notFound
      else .ok (name :: place)

/-- The place that names lead to, one after another. -/
def follow (tree : FileTree) (place : Place) (names : List String) : Except FileError Place :=
  names.foldlM tree.enter place

/-- The place and the entry that a path names. A path that ends in a slash names a folder. -/
def find (tree : FileTree) (text : String) : Except FileError FileEntry := do
  let path ← Path.ofText text
  match tree.entry? (← tree.follow path.start path.names) with
  | none => .error .notFound
  | some .folder => .ok .folder
  | some (.file content) => if path.endsInSlash then .error .notAFolder else .ok (.file content)

def holds (tree : FileTree) (text : String) : Bool :=
  (tree.find text).isOk

def readBytes (tree : FileTree) (text : String) : Except FileError ByteArray := do
  match ← tree.find text with
  | .folder => .error .isAFolder
  | .file content => .ok content

/-- The place where a path would have a file written. The folder that is to hold it must be
there; the file need not be.
-/
def target (tree : FileTree) (text : String) : Except FileError Place := do
  let path ← Path.ofText text
  match path.names.getLast? with
  | none => .error .isAFolder
  | some name =>
      let folder ← tree.follow path.start path.names.dropLast
      match tree.entry? folder with
      | none => .error .notFound
      | some (.file _) => .error .notAFolder
      | some .folder =>
          if path.endsInSlash || name = "." || name = ".." then .error .isAFolder
          else if Path.maxNameSize < name.utf8ByteSize then .error .nameTooLong
          else
            match tree.entry? (name :: folder) with
            | some .folder => .error .isAFolder
            | _ => .ok (name :: folder)

/-- The tree after a file was written, over the old one if there was one. -/
def writeBytes (tree : FileTree) (text : String) (content : ByteArray)
    : Except FileError FileTree :=
  (tree.target text).map fun place => tree.put place (.file content)

/-- A step of making folders: enters a folder, or makes it first. -/
def enterMaking (state : FileTree × Place) (name : String) : Except FileError (FileTree × Place) :=
  match state.1.enter state.2 name with
  | .ok place => .ok (state.1, place)
  | .error .notFound => .ok (state.1.put (name :: state.2) .folder, name :: state.2)
  | .error error => .error error

/-- The tree after a folder was made, with the folders above it that were missing. -/
def makeFolder (tree : FileTree) (text : String) : Except FileError FileTree := do
  let path ← Path.ofText text
  return (← path.names.foldlM enterMaking (tree, path.start)).1

end FileTree

end PenPlotter
