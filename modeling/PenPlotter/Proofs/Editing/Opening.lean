import PenPlotter.Editor.CommandLine
import PenPlotter.Proofs.Editing.Actions
import PenPlotter.Proofs.Files.Writing

/-!
Opening the editor. A program is run at the start only when the command line asks for it and
names the program. What is run is the program in the editor, which is the one in the file as long
as that file could be read; when the file is there but cannot be read, it is the sample.
-/

namespace PenPlotter

-----------------------------------------------------------------------------------------
-- What the command line asks for
-----------------------------------------------------------------------------------------

namespace CommandLine

/-- A command line asks for nothing that is not among its arguments. -/
structure ComesOf (line : CommandLine) (arguments : List String) : Prop where
  run : line.run = true → "--run" ∈ arguments
  program : ∀ path, line.program = some path → path ∈ arguments
  pending : ∀ path, line.pending = .program path → path ∈ arguments

variable {line next : CommandLine} {arguments : List String}

theorem comesOf_empty (arguments : List String) : ComesOf {} arguments where
  run := by simp
  program := by simp
  pending := by simp

/-- A size is set for a side and changes nothing else, by cases on the side. -/
theorem ComesOf.setSize (h : line.ComesOf arguments) {side : Side} {word : String}
    (accepted : line.setSize side word = .ok next)
    : next.ComesOf arguments := by
  cases side <;>
  · simp only [CommandLine.setSize] at accepted
    split at accepted
    · cases accepted
    · split at accepted
      · cases accepted
      · cases accepted
        exact ⟨h.run, h.program, h.pending⟩

theorem ComesOf.settle (h : line.ComesOf arguments) (accepted : line.settle = .ok next)
    : next.ComesOf arguments := by
  simp only [CommandLine.settle] at accepted
  split at accepted
  next => cases accepted; exact h
  next path waiting =>
    split at accepted <;> cases accepted
    refine ⟨h.run, ?_, by simp⟩
    intro other same
    cases same
    exact h.pending path waiting
  next => cases accepted
  next side word _ =>
    have settled : ComesOf { line with pending := .nothing } arguments :=
      ⟨h.run, h.program, by simp⟩
    exact settled.setSize accepted

theorem ComesOf.readSize (h : line.ComesOf arguments) {side : Side} {value : Option String}
    (accepted : line.readSize side value = .ok next)
    : next.ComesOf arguments := by
  cases value with
  | some word =>
      obtain ⟨settled, first, rest⟩ := exists_of_bind_eq_ok accepted
      exact (h.settle first).setSize rest
  | none =>
      obtain ⟨settled, first, rest⟩ := exists_of_bind_eq_ok accepted
      cases rest
      exact ⟨(h.settle first).run, (h.settle first).program, by simp⟩

/-- Only the option by itself is cut into its name and no value. -/
theorem eq_run_of_cutValue {long : List Char} (name : (cutValue long).1 = "run")
    (value : (cutValue long).2 = none)
    : long = ['r', 'u', 'n'] := by
  have rest : long.dropWhile (· != '=') = [] := by
    simp only [cutValue] at value
    split at value
    next nothing => exact nothing
    next => cases value
  have whole : long.takeWhile (· != '=') ++ long.dropWhile (· != '=') = long :=
    List.takeWhile_append_dropWhile
  rw [rest, List.append_nil] at whole
  simp only [cutValue, whole] at name
  simpa using congrArg String.toList name

theorem ComesOf.readLong (h : line.ComesOf arguments) {name : String} {value : Option String}
    (run : name = "run" → value = none → "--run" ∈ arguments)
    (accepted : line.readLong name value = .ok next)
    : next.ComesOf arguments := by
  simp only [CommandLine.readLong] at accepted
  split at accepted
  next => exact h.readSize accepted
  next => exact h.readSize accepted
  next =>
    obtain ⟨_, refused, rest⟩ := exists_of_bind_eq_ok accepted
    obtain ⟨settled, first, last⟩ := exists_of_bind_eq_ok rest
    split at last
    · cases last
    · cases last
      have known := h.settle first
      have bare : value = none := by
        cases value with
        | none => rfl
        | some _ => cases refused
      exact ⟨fun _ => run rfl bare, known.program, known.pending⟩
  next =>
    obtain ⟨_, _, rest⟩ := exists_of_bind_eq_ok accepted
    obtain ⟨_, _, last⟩ := exists_of_bind_eq_ok rest
    cases last
  next =>
    obtain ⟨_, _, rest⟩ := exists_of_bind_eq_ok accepted
    obtain ⟨_, _, last⟩ := exists_of_bind_eq_ok rest
    cases last
  next => cases accepted

theorem readShort_ne_ok (line next : CommandLine) (letter : Option Char)
    : line.readShort letter ≠ .ok next := by
  intro accepted
  simp only [readShort] at accepted
  split at accepted
  next =>
    obtain ⟨_, _, last⟩ := exists_of_bind_eq_ok accepted
    cases last
  next =>
    obtain ⟨_, _, last⟩ := exists_of_bind_eq_ok accepted
    cases last
  next => cases accepted

theorem ComesOf.readWord (h : line.ComesOf arguments) {word : String}
    (member : word ∈ arguments) (accepted : line.readWord word = .ok next)
    : next.ComesOf arguments := by
  simp only [CommandLine.readWord] at accepted
  split at accepted
  next =>
    cases accepted
    exact ⟨h.run, h.program, by simp⟩
  next =>
    split at accepted
    · cases accepted
    · obtain ⟨settled, first, last⟩ := exists_of_bind_eq_ok accepted
      cases last
      have known := h.settle first
      refine ⟨known.run, known.program, ?_⟩
      intro path same
      cases same
      exact member

/-- Reading one of the arguments keeps it so, by cases on the form of the argument. -/
theorem ComesOf.read (h : line.ComesOf arguments) {argument : String}
    (member : argument ∈ arguments) (accepted : line.read argument = .ok next)
    : next.ComesOf arguments := by
  simp only [CommandLine.read] at accepted
  split at accepted
  next => exact h.readWord member accepted
  next =>
    split at accepted
    next =>
      cases accepted
      exact ⟨h.run, h.program, h.pending⟩
    next long _ spelled =>
      refine h.readLong ?_ accepted
      intro name value
      have same : argument = "--run" := by
        rw [← String.toList_inj, spelled, eq_run_of_cutValue name value]
        rfl
      rwa [← same]
    next => exact h.readWord member accepted
    next => exact absurd accepted (readShort_ne_ok line next _)
    next => exact h.readWord member accepted

/-- Reading arguments in order keeps it so, by induction on those still to be read. -/
theorem ComesOf.readAll (h : line.ComesOf arguments) {rest : List String}
    (members : ∀ argument ∈ rest, argument ∈ arguments)
    (accepted : rest.foldlM CommandLine.read line = .ok next)
    : next.ComesOf arguments := by
  induction rest generalizing line with
  | nil =>
      cases accepted
      exact h
  | cons argument rest ih =>
      rw [List.foldlM_cons] at accepted
      obtain ⟨middle, first, later⟩ := exists_of_bind_eq_ok accepted
      have known := h.read (members argument List.mem_cons_self) first
      exact ih known (fun other member => members other (List.mem_cons_of_mem _ member)) later

end CommandLine

/-- A program is run at the start only when the option for it and a program were given. -/
theorem Settings.given_of_runOnStart {arguments : List String} {settings : Settings}
    (accepted : Settings.ofArguments arguments = .ok settings)
    (runs : settings.runOnStart = true)
    : "--run" ∈ arguments ∧ settings.programPath ∈ arguments := by
  obtain ⟨line, read, rest⟩ := exists_of_bind_eq_ok accepted
  obtain ⟨settled, last, same⟩ := exists_of_bind_eq_ok rest
  cases same
  have known := ((CommandLine.comesOf_empty arguments).readAll (fun _ => id) read).settle last
  obtain ⟨run, named⟩ : settled.run = true ∧ settled.program.isSome = true := by
    simpa [CommandLine.settings] using runs
  obtain ⟨path, program⟩ := Option.isSome_iff_exists.mp named
  refine ⟨known.run run, ?_⟩
  simpa [CommandLine.settings, program] using known.program path program

-----------------------------------------------------------------------------------------
-- What has been run
-----------------------------------------------------------------------------------------

namespace Editor

/-- A text has been run from nothing, and a message tells how that ended. -/
structure HasRun (editor : Editor) (text : String) : Prop where
  plotter : editor.plotter = (Plotter.feed ⟨{}, {}⟩ (.program text)).withoutHidden
  message : runMessage (Plotter.run (κ := Recording) ⟨{}, {}⟩ text).result ∈ editor.messages

/-- Nothing has been run: nothing is drawn, the pen is fresh, and no message tells of a run. -/
structure HasRunNothing (editor : Editor) : Prop where
  plotter : editor.plotter = ⟨{}, {}⟩
  silent : ∀ result, runMessage result ∉ editor.messages

theorem head?_runMessage (error : RunError)
    : (runMessage (.error error)).text.toList.head? = some '[' := by
  simp [runMessage, Message.text, RunError.message]

theorem head?_loadMessage (path : String) (error : StoreError)
    : (loadMessage path (.error error)).text.toList.head? = some 'c' := by
  cases error with
  | read _ cause =>
      change ("could not read `" ++ _ ++ "`: " ++ cause.message).toList.head? = some 'c'
      simp
  | write _ cause =>
      change ("could not write `" ++ _ ++ "`: " ++ cause.message).toList.head? = some 'c'
      simp

/-- No message about a run is one about reading a file: successes differ in their first letter, and
so do failures.
-/
theorem runMessage_ne_loadMessage (result : Except RunError Unit) (path : String)
    (outcome : Except StoreError String)
    : runMessage result ≠ loadMessage path outcome := by
  intro same
  have first := congrArg (fun message => message.text.toList.head?) same
  cases result with
  | ok _ =>
      cases outcome with
      | ok text => simp [runMessage, loadMessage, Message.text] at first
      | error error => cases same
  | error error =>
      cases outcome with
      | ok text => cases same
      | error other =>
          simp only [head?_runMessage, head?_loadMessage] at first
          cases first

variable {settings : Settings} {outcome : Except StoreError String}

theorem hasRunNothing_fresh (settings : Settings) : (fresh settings).HasRunNothing where
  plotter := rfl
  silent := by simp [fresh]

theorem hasRunNothing_loaded : ((fresh settings).loaded outcome).HasRunNothing where
  plotter := by rw [loaded_eq]; rfl
  silent := by
    intro result member
    rw [loaded_eq] at member
    exact runMessage_ne_loadMessage result _ outcome (by simpa [fresh] using member)

theorem hasRun_loaded_run
    : ((fresh settings).loaded outcome).run.HasRun (outcome.toOption.getD sample) where
  plotter := by rw [run_eq, loaded_eq]; rfl
  message := by
    rw [run_eq, loaded_eq]
    exact List.mem_append_right _ List.mem_cons_self

end Editor

namespace Workspace

/-- At the start a program is run only if that was asked for and its file could be loaded, and then
it is the loaded text. Otherwise nothing is run.
-/
def RunsOnlyLoaded (settings : Settings) (files : FileTree) : Prop :=
  let editor := (start settings files).editor
  (∀ text,
    settings.runOnStart = true
    → files.load settings.programPath = .ok text
    → editor.HasRun text)
  ∧ (settings.runOnStart = false ∨ (∀ text, files.load settings.programPath ≠ .ok text)
    → editor.HasRunNothing)

theorem hasRun_start_of_load {settings : Settings} {files : FileTree} {text : String}
    (asked : settings.runOnStart = true)
    (loads : files.load settings.programPath = .ok text)
    : (start settings files).editor.HasRun text := by
  rw [start_of_run (FileTree.holds_of_load loads) asked, loads]
  exact Editor.hasRun_loaded_run

/-- A file that is there and cannot be loaded leaves the sample to be run. -/
theorem hasRun_start_of_unreadable {settings : Settings} {files : FileTree} {error : StoreError}
    (asked : settings.runOnStart = true) (found : files.holds settings.programPath = true)
    (fails : files.load settings.programPath = .error error)
    : (start settings files).editor.HasRun Editor.sample := by
  rw [start_of_run found asked, fails]
  exact Editor.hasRun_loaded_run

theorem hasRunNothing_start {settings : Settings} {files : FileTree}
    (reason : settings.runOnStart = false ∨ files.holds settings.programPath = false)
    : (start settings files).editor.HasRunNothing := by
  cases found : files.holds settings.programPath with
  | false =>
      rw [start_of_absent found]
      exact Editor.hasRunNothing_fresh settings
  | true =>
      have quiet : settings.runOnStart = false := by simpa [found] using reason
      rw [start_of_found found quiet]
      exact Editor.hasRunNothing_loaded

/-- An accepted command line has a program run at the start only if it holds the option for that and
names the program. What is run is only what was loaded exactly when, asked to run a program whose
file is there, the editor can load it: if it cannot, the sample is run.
-/
theorem runs_only_loaded_iff {arguments : List String} {settings : Settings}
    (accepted : Settings.ofArguments arguments = .ok settings) (files : FileTree)
    : (settings.runOnStart = true
        → "--run" ∈ arguments ∧ settings.programPath ∈ arguments)
      ∧ (RunsOnlyLoaded settings files
        ↔ (settings.runOnStart = true
          → files.holds settings.programPath = true
          → ∃ text, files.load settings.programPath = .ok text)) := by
  refine ⟨Settings.given_of_runOnStart accepted, ?_, ?_⟩
  · intro only asked found
    cases outcome : files.load settings.programPath with
    | ok text => exact ⟨text, rfl⟩
    | error error =>
        -- The sample has been run, which a message tells.
        have ran := hasRun_start_of_unreadable asked found outcome
        have none : ∀ text, files.load settings.programPath ≠ .ok text := by simp [outcome]
        exact absurd ran.message ((only.2 (Or.inr none)).silent _)
  · intro readable
    refine ⟨fun text asked loads => hasRun_start_of_load asked loads, ?_⟩
    intro reason
    apply hasRunNothing_start
    cases asked : settings.runOnStart with
    | false => exact Or.inl rfl
    | true =>
        refine Or.inr (Bool.eq_false_iff.mpr fun found => ?_)
        obtain ⟨text, loads⟩ := readable asked found
        rcases reason with quiet | none
        · rw [asked] at quiet
          cases quiet
        · exact none text loads

/-- A program that is there, and one that is not. -/
theorem runs_only_loaded_iff_samples
    : let files : FileTree :=
        ⟨[(["e", ""], .file "clear".toUTF8), (.working, .folder), (.top, .folder)]⟩
      let settings : Settings := { programPath := "e", runOnStart := true }
      let absent : Settings := { programPath := "f", runOnStart := true }
      (Settings.ofArguments ["--run", "e"] = .ok settings
        ∧ files.load "e" = .ok "clear"
        ∧ RunsOnlyLoaded settings files)
      ∧ (Settings.ofArguments ["f", "--run"] = .ok absent
        ∧ files.holds "f" = false
        ∧ RunsOnlyLoaded absent files) := by
  intro files settings absent
  have accepted : Settings.ofArguments ["--run", "e"] = .ok settings := by
    subst settings
    rfl
  have loads : files.load "e" = .ok "clear" := by
    subst files
    rfl
  have alike : Settings.ofArguments ["f", "--run"] = .ok absent := by
    subst absent
    rfl
  have missing : files.holds "f" = false := by
    subst files
    rfl
  refine ⟨⟨accepted, loads, ?_⟩, alike, missing, ?_⟩
  · exact (runs_only_loaded_iff accepted files).2.mpr fun _ _ => ⟨_, loads⟩
  · refine (runs_only_loaded_iff alike files).2.mpr fun _ found => ?_
    rw [missing] at found
    cases found

/-- A folder in the place of the program is there and cannot be loaded, so the sample is run. -/
theorem runs_sample_for_folder
    : let files : FileTree :=
        ⟨[(["d", ""], .folder), (.working, .folder), (.top, .folder)]⟩
      let settings : Settings := { programPath := "d", runOnStart := true }
      Settings.ofArguments ["--run", "d"] = .ok settings
      ∧ files.load "d" = .error (.read "d" .isAFolder)
      ∧ (start settings files).editor.HasRun Editor.sample
      ∧ ¬ RunsOnlyLoaded settings files := by
  intro files settings
  have fails : files.load "d" = .error (.read "d" .isAFolder) := by
    subst files
    rfl
  have found : files.holds "d" = true := by
    subst files
    rfl
  have ran : (start settings files).editor.HasRun Editor.sample :=
    hasRun_start_of_unreadable rfl found fails
  have none : ∀ text, files.load "d" ≠ .ok text := by simp [fails]
  refine ⟨?_, fails, ran, fun only => ?_⟩
  · subst settings
    rfl
  · exact (only.2 (Or.inr none)).silent _ ran.message

end Workspace

end PenPlotter
