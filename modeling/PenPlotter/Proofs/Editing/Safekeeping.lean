import PenPlotter.Proofs.Editing.Moments
import PenPlotter.Proofs.Editing.Opening
import PenPlotter.Proofs.Plotting.Turns

/-!
What a session leaves alone. The program in the editor is always the one typed or loaded last, so a
failure never loses it, and only running a program, wiping and entering a command touch the plotter.
-/

namespace PenPlotter

/-- Whether an action may change the pen or the canvas. -/
def Action.draws : Action → Bool
  | .run | .clearCanvas | .enter _ => true
  | .setSource _ | .setPath _ | .check | .load | .save | .openTab _ => false

def Moment.draws : Moment → Bool
  | .event (.act action) => action.draws
  | .event (.filesChange _) | .typing _ => false

-----------------------------------------------------------------------------------------
-- Actions that leave the work alone
-----------------------------------------------------------------------------------------

namespace Editor

/-- The program, its path, the command being typed, the pen and the canvas are the same. -/
structure SameWork (editor other : Editor) : Prop where
  source : editor.source = other.source
  path : editor.path = other.path
  command : editor.command = other.command
  plotter : editor.plotter = other.plotter

theorem sameWork_check (editor : Editor) : editor.check.SameWork editor := by
  rw [check_eq]
  exact ⟨rfl, rfl, rfl, rfl⟩

theorem sameWork_saved (editor : Editor) (outcome : Except StoreError Unit)
    : (editor.saved outcome).SameWork editor := by
  rw [saved_eq]
  exact ⟨rfl, rfl, rfl, rfl⟩

theorem sameWork_loaded_error (editor : Editor) (error : StoreError)
    : (editor.loaded (.error error)).SameWork editor :=
  ⟨rfl, rfl, rfl, rfl⟩

/-- Wiping leaves the pen as it was, and nothing is visible. -/
theorem pen_visible_clearCanvas (editor : Editor)
    : editor.clearCanvas.plotter.pen = editor.plotter.pen
      ∧ editor.clearCanvas.plotter.canvas.visible = [] := by
  rw [plotter_clearCanvas, Plotter.feed, Plotter.runCommand_clear]
  refine ⟨rfl, ?_⟩
  exact (Recording.visible_dropHidden _).trans (Recording.visible_push _ .wipe)

end Editor

namespace Workspace

theorem sameWork_save (workspace : Workspace)
    : (workspace.act .save).editor.SameWork workspace.editor := by
  rw [editor_save]
  exact workspace.editor.sameWork_saved _

/-- A file that cannot be read leaves the work as it was. -/
theorem sameWork_load {workspace : Workspace} {error : StoreError}
    (fails : workspace.files.load workspace.editor.path = .error error)
    : (workspace.act .load).editor.SameWork workspace.editor := by
  rw [act, edit, fails]
  exact workspace.editor.sameWork_loaded_error error

/-- Drawing leaves the program and its path alone, by cases on the actions that may draw. -/
theorem source_path_of_draws (workspace : Workspace) {action : Action} (draws : action.draws = true)
    : (workspace.act action).editor.source = workspace.editor.source
      ∧ (workspace.act action).editor.path = workspace.editor.path := by
  cases action with
  | run =>
      rw [act, edit, Editor.run_eq]
      exact ⟨rfl, rfl⟩
  | clearCanvas =>
      rw [act, edit, Editor.clearCanvas_eq]
      exact ⟨rfl, rfl⟩
  | enter line =>
      rw [act, edit, Editor.submit_eq]
      exact ⟨rfl, rfl⟩
  | setSource _ | setPath _ | check | load | save | openTab _ => cases draws

/-- Only what may draw has an input for the plotter. -/
theorem plotter_of_not_draws (workspace : Workspace) {moment : Moment}
    (still : moment.draws = false)
    : (workspace.afterMoment moment).editor.plotter = workspace.editor.plotter := by
  cases moment with
  | typing command => rfl
  | event event =>
      have silent : workspace.input? event = none := by
        cases event with
        | filesChange files => rfl
        | act action => cases action <;> first | rfl | cases still
      rw [afterMoment, plotter_after, silent, Option.elim]

-----------------------------------------------------------------------------------------
-- The program in the editor
-----------------------------------------------------------------------------------------

/-- The program that a moment puts into the editor, if any: what is typed, or what is loaded. -/
def newText? (workspace : Workspace) : Moment → Option String
  | .event (.act (.setSource text)) => some text
  | .event (.act .load) => (workspace.files.load workspace.editor.path).toOption
  | _ => none

/-- The programs that come into the editor in a session, in order. -/
def newTexts (workspace : Workspace) (moments : List Moment) : List String :=
  workspace.gather (fun workspace moment => (workspace.newText? moment).toList) moments

theorem source_act (workspace : Workspace) (action : Action)
    : (workspace.act action).editor.source
      = (workspace.newText? (.event (.act action))).getD workspace.editor.source := by
  cases action with
  | load => exact workspace.editor.source_loaded _
  | check => exact workspace.editor.sameWork_check.source
  | save => exact workspace.sameWork_save.source
  | run | clearCanvas | enter _ => exact (workspace.source_path_of_draws rfl).1
  | setSource _ | setPath _ | openTab _ => rfl

theorem getLast?_toList (text : Option String) : text.toList.getLast? = text := by
  cases text <;> rfl

theorem source_afterMoment (workspace : Workspace) (moment : Moment)
    : (workspace.afterMoment moment).editor.source
      = (workspace.newText? moment).toList.getLast?.getD workspace.editor.source := by
  rw [getLast?_toList]
  cases moment with
  | typing command => rfl
  | event event =>
      cases event with
      | act action => exact workspace.source_act action
      | filesChange files => rfl

/-- The editor opens on the program that could be loaded, and else on the sample. -/
theorem source_start (settings : Settings) (files : FileTree)
    : (start settings files).editor.source
      = (files.load settings.programPath).toOption.getD Editor.sample := by
  cases found : files.holds settings.programPath with
  | false =>
      rw [start_of_absent found]
      cases outcome : files.load settings.programPath with
      | error error => rfl
      | ok text =>
          rw [FileTree.holds_of_load outcome] at found
          cases found
  | true =>
      cases asked : settings.runOnStart with
      | false =>
          rw [start_of_found found asked]
          exact Editor.source_loaded _ _
      | true =>
          rw [start_of_run found asked, Editor.run_eq]
          exact Editor.source_loaded _ _

theorem plotter_start_of_not_run {settings : Settings} {files : FileTree}
    (quiet : (files.holds settings.programPath && settings.runOnStart) = false)
    : (start settings files).editor.plotter = ⟨{}, {}⟩ := by
  rw [withoutHidden_start, startInput?, quiet]
  rfl

/-- The editor never loses a program, and checks never draw. After any start and any moments the
program is the one that came in last, typed or loaded, or else the sample. Loading that fails,
saving and checking leave program, path, command, pen and canvas as they were. What may draw leaves
program and path alone, and of it wiping keeps the pen and leaves nothing visible. Nothing else
changes pen or canvas, besides the start-up run.
-/
theorem editor_never_loses_text (settings : Settings) (files : FileTree) (moments : List Moment)
    : let opened := start settings files
      let workspace := opened.afterMoments moments
      let editor := workspace.editor
      let cleared := (workspace.act .clearCanvas).editor.plotter
      let texts := (files.load settings.programPath).toOption.toList ++ opened.newTexts moments
      editor.source = texts.getLast?.getD Editor.sample
      ∧ (∀ error,
          workspace.files.load editor.path = .error error
          → (workspace.act .load).editor.SameWork editor)
      ∧ (workspace.act .save).editor.SameWork editor
      ∧ (workspace.act .check).editor.SameWork editor
      ∧ (∀ action,
          action.draws = true
          → (workspace.act action).editor.source = editor.source
            ∧ (workspace.act action).editor.path = editor.path)
      ∧ cleared.pen = editor.plotter.pen
      ∧ cleared.canvas.visible = []
      ∧ (∀ moment,
          moment.draws = false
          → (workspace.afterMoment moment).editor.plotter = editor.plotter)
      ∧ ((files.holds settings.programPath && settings.runOnStart) = false
          → opened.editor.plotter = ⟨{}, {}⟩) := by
  intro opened workspace editor cleared texts
  have source : editor.source = texts.getLast?.getD Editor.sample := by
    rw [List.getLast?_append, Option.getD_or, getLast?_toList, ← source_start]
    exact afterMoments_replaces (fun workspace => workspace.editor.source)
      source_afterMoment opened moments
  obtain ⟨pen, visible⟩ := editor.pen_visible_clearCanvas
  refine ⟨source, ?_, workspace.sameWork_save, editor.sameWork_check, ?_, pen, visible, ?_, ?_⟩
  · intro error fails
    exact sameWork_load fails
  · intro action draws
    exact workspace.source_path_of_draws draws
  · intro moment still
    exact workspace.plotter_of_not_draws still
  · intro quiet
    exact plotter_start_of_not_run quiet

/-- A program typed over the one that was there, with a path that names no file. -/
theorem editor_never_loses_text_sample
    : let files : FileTree :=
        ⟨[(["e", ""], .file "clear".toUTF8), (.working, .folder), (.top, .folder)]⟩
      let settings : Settings := { programPath := "e" }
      let moments : List Moment :=
        [.event (.act (.setSource "circle 5")), .event (.act (.setPath "f"))]
      let opened := start settings files
      let workspace := opened.afterMoments moments
      workspace.editor.source = "circle 5"
      ∧ workspace.files.load "f" = .error (.read "f" .notFound)
      ∧ (workspace.act .load).editor.source = "circle 5"
      ∧ (workspace.act .run).editor.path = "f"
      ∧ (workspace.afterMoment (.typing "clear")).editor.plotter = workspace.editor.plotter
      ∧ opened.editor.plotter = ⟨{}, {}⟩ := by
  intro files settings moments opened workspace
  have fails : workspace.files.load "f" = .error (.read "f" .notFound) := by decide +kernel
  obtain ⟨source, failedLoad, -, -, drawn, -, -, still, quiet⟩ :=
    editor_never_loses_text settings files moments
  have typed : workspace.editor.source = "circle 5" := source.trans (by decide +kernel)
  refine ⟨typed, fails, (failedLoad _ fails).source.trans typed, (drawn .run rfl).2,
    still (.typing "clear") rfl, quiet (by decide +kernel)⟩

end Workspace

end PenPlotter
