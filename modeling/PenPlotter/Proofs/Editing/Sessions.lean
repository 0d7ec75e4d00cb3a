import PenPlotter.Proofs.Editing.Actions

/-!
Sessions with the editor, against a plain plotter that is given the same programs and commands
and never drops anything. The editor's plotter is at all times the plain one without what is
hidden, so both show the same, and the editor keeps no more than the last wipe besides.
-/

namespace PenPlotter

open Plotter (Input)

/-- What happens in a session: the user acts, or something else changes the files. -/
inductive Event where
  | act (action : Action)
  | filesChange (files : FileTree)

namespace Workspace

def after (workspace : Workspace) : Event → Workspace
  | .act action => workspace.act action
  | .filesChange files => { workspace with files }

def afterAll (workspace : Workspace) (events : List Event) : Workspace :=
  events.foldl after workspace

/-- What an event gives the plotter: the program that stands in the editor, or a command. -/
def input? (workspace : Workspace) : Event → Option Input
  | .act .run => some (.program workspace.editor.source)
  | .act .clearCanvas => some (.command "clear")
  | .act (.enter line) => some (.command line)
  | _ => none

def inputs (workspace : Workspace) : List Event → List Input
  | [] => []
  | event :: events => (workspace.input? event).toList ++ (workspace.after event).inputs events

/-- What the start gives the plotter: the program in the editor, if it is to be run and its file
is there.
-/
def startInput? (settings : Settings) (files : FileTree) : Option Input :=
  if files.holds settings.programPath && settings.runOnStart then
    some (.program (start settings files).editor.source)
  else none

/-- Each event gives the plotter its input, if it has one, and then drops what is hidden. By cases
on the event; only running, wiping and entering a command have an input.
-/
theorem plotter_after (workspace : Workspace) (event : Event)
    : (workspace.after event).editor.plotter
      = (workspace.input? event).elim workspace.editor.plotter
          fun input => (workspace.editor.plotter.feed input).withoutHidden := by
  obtain ⟨editor, files⟩ := workspace
  cases event with
  | filesChange files => rfl
  | act action =>
      cases action with
      | setSource text => rfl
      | setPath path => rfl
      | run => simp only [after, act, edit, input?, Editor.run_eq, Option.elim]
      | check => exact editor.plotter_check
      | clearCanvas => exact editor.plotter_clearCanvas
      | load => simp only [after, act, edit, input?, Editor.loaded_eq, Option.elim]
      | save =>
          rw [after, editor_save]
          exact editor.plotter_saved _
      | enter line => exact Editor.plotter_submit { editor with command := line }
      | openTab tab => rfl

/-- One event keeps the editor's plotter the plain one without what is hidden. -/
theorem withoutHidden_after {workspace : Workspace} {plain : Plotter Recording}
    (same : workspace.editor.plotter = plain.withoutHidden) (event : Event)
    : (workspace.after event).editor.plotter
      = (plain.feedAll (workspace.input? event).toList).withoutHidden := by
  rw [plotter_after, same]
  cases workspace.input? event with
  | none => rfl
  | some input => exact plain.withoutHidden_feed_withoutHidden input

/-- A session keeps it so, by induction on the events. -/
theorem withoutHidden_afterAll {workspace : Workspace} {plain : Plotter Recording}
    (same : workspace.editor.plotter = plain.withoutHidden) (events : List Event)
    : (workspace.afterAll events).editor.plotter
      = (plain.feedAll (workspace.inputs events)).withoutHidden := by
  induction events generalizing workspace plain with
  | nil => exact same
  | cons event events ih =>
      have first := withoutHidden_after same event
      rw [inputs, Plotter.feedAll_append]
      exact ih first

/-- The start leaves a plotter that was given the start-up program, if it is run, and otherwise
nothing.
-/
theorem withoutHidden_start (settings : Settings) (files : FileTree)
    : (start settings files).editor.plotter
      = (Plotter.feedAll ⟨{}, {}⟩ (startInput? settings files).toList).withoutHidden := by
  rw [startInput?]
  cases held : files.holds settings.programPath with
  | false =>
      rw [start_of_absent held]
      rfl
  | true =>
      cases asked : settings.runOnStart with
      | false =>
          rw [start_of_found held asked, Editor.loaded_eq]
          rfl
      | true =>
          simp only [start_of_run held asked, Editor.run_eq, Editor.loaded_eq, Bool.and_true,
            if_true, Option.toList, Plotter.feedAll, List.foldl]
          rfl

/-- The editor shows what the language says. After any start and any events, pen and visible figures
are those of a plain plotter that was given the same programs and commands in the same order and
keeps every figure. The editor keeps the visible figures and, if the canvas was ever wiped, one
wipe before them, and nothing else.
-/
theorem editor_shows_plain_plotter (settings : Settings) (files : FileTree)
    (events : List Event)
    : let opened := start settings files
      let shown := (opened.afterAll events).editor.plotter
      let plain : Plotter Recording :=
        Plotter.feedAll ⟨{}, {}⟩
          ((startInput? settings files).toList ++ opened.inputs events)
      shown.pen = plain.pen
      ∧ shown.canvas.visible = plain.canvas.visible
      ∧ shown.canvas.figures
        = (if .wipe ∈ plain.canvas.figures then [.wipe] else []) ++ shown.canvas.visible := by
  intro opened shown plain
  have same : shown = plain.withoutHidden := by
    rw [show plain = _ from Plotter.feedAll_append _ _ _]
    exact withoutHidden_afterAll (withoutHidden_start settings files) events
  rw [same]
  refine ⟨rfl, plain.canvas.visible_dropHidden, ?_⟩
  rw [Plotter.withoutHidden, plain.canvas.visible_dropHidden]
  exact plain.canvas.figures_dropHidden_eq_ite

end Workspace

end PenPlotter
