import PenPlotter.Files.Store
import PenPlotter.Proofs.Files.Encoding

/-!
What writing a file does to paths. A file takes the place of another or a place that held nothing,
and no path that could be followed leads through either. So the path that was written to leads to
the new file, and reading it gives back the bytes.
-/

namespace PenPlotter

theorem exists_of_bind_eq_ok {ε α β : Type} {first : Except ε α} {next : α → Except ε β} {b : β}
    (succeeded : (first >>= next) = .ok b)
    : ∃ a, first = .ok a ∧ next a = .ok b := by
  cases first with
  | error fault => cases succeeded
  | ok a => exact ⟨a, rfl, succeeded⟩

theorem bind_eq_of_eq_ok {ε α β : Type} {first : Except ε α} {a : α} (succeeded : first = .ok a)
    (next : α → Except ε β)
    : (first >>= next) = next a := by
  rw [succeeded]
  rfl

namespace FileTree

variable {tree : FileTree} {place start folder reached : Place} {entry : FileEntry}
  {name path text : String} {names : List String} {content : ByteArray}

-----------------------------------------------------------------------------------------
-- Following names past a new file
-----------------------------------------------------------------------------------------

theorem entry?_put (tree : FileTree) (place other : Place) (entry : FileEntry)
    : entry? (tree.put place entry) other
      = if other = place then some entry else tree.entry? other := by
  rw [ entry?, put, List.lookup_cons]
  split
  next same => rw [if_pos (eq_of_beq same)]
  next differs => rw [if_neg (by simpa using differs), entry?]

/-- What is put where no folder stood leaves every folder standing. -/
theorem entry?_put_of_folder (free : tree.entry? place ≠ some .folder)
    (stood : tree.entry? start = some .folder)
    : entry? (tree.put place entry) start = some .folder := by
  rw [entry?_put, if_neg, stood]
  rintro rfl
  exact free stood

theorem isNone_entry?_put_self (tree : FileTree) (place : Place) (entry : FileEntry)
    : ¬ (FileTree.entry? (tree.put place entry) place).isNone := by
  rw [entry?_put, if_pos rfl]
  exact Bool.false_ne_true

theorem isNone_entry?_put {other : Place} (there : ¬ (tree.entry? other).isNone)
    : ¬ (FileTree.entry? (tree.put place entry) other).isNone := by
  rw [entry?_put]
  split
  · exact Bool.false_ne_true
  · exact there

theorem enter_of_folder (stood : tree.entry? start = some .folder) (name : String)
    : tree.enter start name
      = if name = "." then .ok start
        else if name = ".." then .ok start.tail
        else if Path.maxNameSize < name.utf8ByteSize then .error .nameTooLong
        else if (tree.entry? (name :: start)).isNone then .error .notFound
        else .ok (name :: start) := by
  rw [enter, stood]

theorem entry?_of_enter (entered : tree.enter start name = .ok reached)
    : tree.entry? start = some .folder := by
  rw [enter] at entered
  split at entered
  next => cases entered
  next => cases entered
  next stood => exact stood

/-- A name leads where it led before, by cases on what stopped it or let it through. -/
theorem enter_put (free : tree.entry? place ≠ some .folder)
    (entered : tree.enter start name = .ok reached)
    : (tree.put place entry).enter start name = .ok reached := by
  have stood := entry?_of_enter entered
  rw [enter_of_folder stood] at entered
  rw [enter_of_folder (entry?_put_of_folder free stood)]
  split at entered
  next stays => rwa [if_pos stays]
  next moves =>
    rw [if_neg moves]
    split at entered
    next up => rwa [if_pos up]
    next down =>
      rw [if_neg down]
      split at entered
      next => cases entered
      next fits =>
        rw [if_neg fits]
        split at entered
        next => cases entered
        next there => rwa [if_neg (isNone_entry?_put there)]

theorem follow_append (tree : FileTree) (start : Place) (names more : List String)
    : tree.follow start (names ++ more)
      = tree.follow start names >>= fun reached => tree.follow reached more :=
  List.foldlM_append

/-- Names lead where they led before, by induction on them. -/
theorem follow_put (free : tree.entry? place ≠ some .folder)
    (followed : tree.follow start names = .ok reached)
    : (tree.put place entry).follow start names = .ok reached := by
  induction names generalizing start with
  | nil => exact followed
  | cons name names ih =>
      rw [follow, List.foldlM_cons] at followed ⊢
      obtain ⟨next, entered, rest⟩ := exists_of_bind_eq_ok followed
      rw [bind_eq_of_eq_ok (enter_put free entered)]
      exact ih rest

-----------------------------------------------------------------------------------------
-- Reading what was written
-----------------------------------------------------------------------------------------

/-- A path that a file may be written to. All its names but the last lead to a folder, and the last
is a name for a file there, if no folder has it.
-/
structure Targets (tree : FileTree) (parts : Path) (folder : Place) (name : String) : Prop where
  last : parts.names.getLast? = some name
  leads : tree.follow parts.start parts.names.dropLast = .ok folder
  stands : tree.entry? folder = some .folder
  noDots : name ≠ "." ∧ name ≠ ".."
  fits : ¬ Path.maxNameSize < name.utf8ByteSize
  namesFile : parts.endsInSlash = false
  free : tree.entry? (name :: folder) ≠ some .folder

theorem targets_of_target (targeted : tree.target path = .ok place)
    : ∃ parts folder name,
        Path.ofText path = .ok parts ∧ place = name :: folder ∧ tree.Targets parts folder name := by
  obtain ⟨parts, taken, rest⟩ := exists_of_bind_eq_ok targeted
  refine ⟨parts, ?_⟩
  split at rest
  next => cases rest
  next name last =>
    obtain ⟨folder, leads, held⟩ := exists_of_bind_eq_ok rest
    refine ⟨folder, name, taken, ?_⟩
    split at held
    next => cases held
    next => cases held
    next stands =>
      split at held
      next => cases held
      next plain =>
        simp only [Bool.or_eq_true, decide_eq_true_eq, not_or, Bool.not_eq_true] at plain
        obtain ⟨⟨namesFile, noDot⟩, noDots⟩ := plain
        split at held
        next => cases held
        next fits =>
          split at held
          next => cases held
          next free =>
            cases held
            exact ⟨rfl, last, leads, stands, ⟨noDot, noDots⟩, fits, namesFile, free⟩

/-- The names of such a path lead to the file once it is there. -/
theorem Targets.follow_put {parts : Path} (targets : tree.Targets parts folder name)
    : (tree.put (name :: folder) (.file content)).follow parts.start parts.names
      = .ok (name :: folder) := by
  obtain ⟨last, leads, stands, ⟨noDot, noDots⟩, fits, -, free⟩ := targets
  have split : parts.names = parts.names.dropLast ++ [name] :=
    (List.dropLast_append_getLast? name last).symm
  rw [split, follow_append, bind_eq_of_eq_ok (FileTree.follow_put free leads), follow,
    List.foldlM_cons, enter_of_folder (entry?_put_of_folder free stands), if_neg noDot,
    if_neg noDots, if_neg fits, if_neg (isNone_entry?_put_self tree _ _)]
  rfl

/-- A file that was written is read back byte for byte. -/
theorem readBytes_of_writeBytes {written : FileTree}
    (writes : tree.writeBytes path content = .ok written)
    : written.readBytes path = .ok content := by
  rw [writeBytes] at writes
  cases targeted : tree.target path with
  | error error =>
      rw [targeted] at writes
      cases writes
  | ok place =>
      rw [targeted] at writes
      obtain rfl := Except.ok.inj writes
      obtain ⟨parts, folder, name, taken, rfl, targets⟩ := targets_of_target targeted
      have found : (tree.put (name :: folder) (.file content)).find path
          = .ok (.file content) := by
        rw [find, bind_eq_of_eq_ok taken, bind_eq_of_eq_ok targets.follow_put, entry?_put,
          if_pos rfl, targets.namesFile]
        rfl
      rw [readBytes, bind_eq_of_eq_ok found]

-----------------------------------------------------------------------------------------
-- Texts in files
-----------------------------------------------------------------------------------------

/-- A text is loaded exactly when the file holds its bytes. -/
theorem load_eq_ok_iff
    : tree.load path = .ok text ↔ tree.readBytes path = .ok text.toUTF8 := by
  rw [load]
  cases tree.readBytes path with
  | error cause => simp
  | ok content =>
      dsimp only
      rw [Except.ok.injEq, eq_comm (a := content), ← Utf8.fromUTF8?_eq_some_iff]
      cases String.fromUTF8? content <;> simp

/-- What can be loaded is there. -/
theorem holds_of_load (loads : tree.load path = .ok text) : tree.holds path = true := by
  obtain ⟨entry, found, -⟩ := exists_of_bind_eq_ok (load_eq_ok_iff.mp loads)
  rw [holds, found]
  rfl

/-- A text that was saved is loaded again. -/
theorem load_of_save {saved : FileTree} (saves : tree.save path text = .ok saved)
    : saved.load path = .ok text := by
  rw [load_eq_ok_iff]
  rw [save] at saves
  cases written : tree.writeBytes path text.toUTF8 with
  | error cause =>
      rw [written] at saves
      cases saves
  | ok after =>
      rw [written] at saves
      obtain rfl := Except.ok.inj saves
      exact readBytes_of_writeBytes written

theorem load_of_readBytes_error {cause : FileError} (fails : tree.readBytes path = .error cause)
    : tree.load path = .error (.read path cause) := by
  rw [load, fails]

variable {bytes : List UInt8}

/-- The bytes of a file are loaded exactly when they are well formed. -/
theorem exists_load_iff (held : tree.readBytes path = .ok bytes.toByteArray)
    : (∃ text, tree.load path = .ok text) ↔ Utf8.WellFormed bytes := by
  simp only [load_eq_ok_iff, held, Except.ok.injEq, Utf8.wellFormed_iff_toUTF8,
    eq_comm (a := bytes.toByteArray)]

theorem load_of_not_wellFormed (held : tree.readBytes path = .ok bytes.toByteArray)
    (malformed : ¬ Utf8.WellFormed bytes)
    : tree.load path = .error (.read path .notText) := by
  have unread : String.fromUTF8? bytes.toByteArray = none := by
    cases read : String.fromUTF8? bytes.toByteArray with
    | none => rfl
    | some text =>
        have same := Utf8.fromUTF8?_eq_some_iff.mp read
        exact absurd (Utf8.wellFormed_iff_toUTF8.mpr ⟨text, same⟩) malformed
  rw [load, held]
  dsimp only
  rw [unread]

end FileTree

end PenPlotter
