import PenPlotter.Editor.Workspace
import PenPlotter.Proofs.Plotting.Replay

/-!
What each action does to the editor: the input that it gives the plotter, if any, and the message
that comes of it. The plotter is always left without what is hidden.
-/

namespace PenPlotter

-----------------------------------------------------------------------------------------
-- What is told of an action
-----------------------------------------------------------------------------------------

/-- How something went: it failed, for one reason or several, or it succeeded, with or without
something to say.
-/
inductive Verdict where
  | failed (reasons : List String)
  | succeeded (said : Option String)
deriving DecidableEq, Repr

namespace Verdict

/-- Every reason is an error of its own. -/
def messages : Verdict → List Message
  | .failed reasons => reasons.map .error
  | .succeeded said => said.toList.map .info

def reasons : Verdict → List String
  | .failed reasons => reasons
  | .succeeded _ => []

def ofRun : Except RunError Unit → Verdict
  | .ok () => .succeeded (some "run ok")
  | .error error => .failed [error.message]

/-- A check fails for each violation, and a report without any is told. -/
def ofCheck (report : FormReport) : Verdict :=
  if report.isValid then .succeeded (some report.message)
  else .failed (report.violations.map Violation.message)

/-- A command that succeeds is not told of. -/
def ofCommand (line : String) : Except RunError Unit → Verdict
  | .ok () => .succeeded none
  | .error error => .failed ["`" ++ Text.trim line ++ "`: " ++ error.fault.message]

/-- Reading and writing are told of in the same way, but for what was done. -/
def ofStore {α : Type} (done path : String) : Except StoreError α → Verdict
  | .ok _ => .succeeded (some (done ++ path))
  | .error error => .failed [error.message]

end Verdict

-----------------------------------------------------------------------------------------
-- What an action does
-----------------------------------------------------------------------------------------

namespace Editor

/-- The message about a run. -/
def runMessage : Except RunError Unit → Message
  | .ok () => .info "run ok"
  | .error error => .error error.message

/-- The message about reading a file. -/
def loadMessage (path : String) : Except StoreError String → Message
  | .ok _ => .info ("loaded " ++ path)
  | .error error => .error error.message

theorem run_eq (editor : Editor)
    : editor.run
      = { editor with
            plotter := (editor.plotter.feed (.program editor.source)).withoutHidden
            messages :=
              editor.messages ++ [runMessage (editor.plotter.run editor.source).result] } := by
  simp only [run, keepPlotter, report, Plotter.feed, Plotter.withoutHidden]
  rfl

theorem loaded_eq (editor : Editor) (outcome : Except StoreError String)
    : editor.loaded outcome
      = { editor with
            source := outcome.toOption.getD editor.source
            messages := editor.messages ++ [loadMessage editor.path outcome] } := by
  cases outcome <;> rfl

theorem check_eq (editor : Editor)
    : editor.check
      = { editor with
            tab := if (FormReport.ofProgram editor.source).isValid then editor.tab else .messages
            messages :=
              editor.messages
                ++ (Verdict.ofCheck (FormReport.ofProgram editor.source)).messages } := by
  rw [check, Verdict.ofCheck]
  split
  · rfl
  · simp only [Verdict.messages, List.map_map]
    rfl

theorem clearCanvas_eq (editor : Editor)
    : editor.clearCanvas
      = { editor with plotter := (editor.plotter.feed (.command "clear")).withoutHidden } := by
  simp only [clearCanvas, keepPlotter, Plotter.feed, Plotter.withoutHidden, Command.keyword]

theorem submit_eq (editor : Editor)
    : editor.submit
      = { editor with
            command := ""
            plotter := (editor.plotter.feed (.command editor.command)).withoutHidden
            messages :=
              editor.messages
                ++ (Verdict.ofCommand editor.command
                      (editor.plotter.runCommand editor.command).result).messages } := by
  simp only [submit, keepPlotter, report, Plotter.feed, Plotter.withoutHidden]
  cases (editor.plotter.runCommand editor.command).result with
  | ok _ => exact congrArg _ (List.append_nil _).symm
  | error error => rfl

theorem saved_eq (editor : Editor) (outcome : Except StoreError Unit)
    : editor.saved outcome
      = { editor with messages :=
              editor.messages ++ (Verdict.ofStore "saved " editor.path outcome).messages } := by
  cases outcome <;> rfl

theorem messages_run (editor : Editor)
    : editor.run.messages
      = editor.messages
        ++ (Verdict.ofRun (editor.plotter.run editor.source).result).messages := by
  rw [run_eq]
  cases (editor.plotter.run editor.source).result <;> rfl

theorem messages_loaded (editor : Editor) (outcome : Except StoreError String)
    : (editor.loaded outcome).messages
      = editor.messages ++ (Verdict.ofStore "loaded " editor.path outcome).messages := by
  rw [loaded_eq]
  cases outcome <;> rfl

theorem source_loaded (editor : Editor) (outcome : Except StoreError String)
    : (editor.loaded outcome).source = outcome.toOption.getD editor.source := by
  rw [loaded_eq]

theorem plotter_loaded (editor : Editor) (outcome : Except StoreError String)
    : (editor.loaded outcome).plotter = editor.plotter := by
  rw [loaded_eq]

theorem plotter_clearCanvas (editor : Editor)
    : editor.clearCanvas.plotter = (editor.plotter.feed (.command "clear")).withoutHidden := by
  rw [clearCanvas_eq]

theorem plotter_submit (editor : Editor)
    : editor.submit.plotter
      = (editor.plotter.feed (.command editor.command)).withoutHidden := by
  rw [submit_eq]

theorem plotter_check (editor : Editor) : editor.check.plotter = editor.plotter := by
  rw [check_eq]

theorem plotter_saved (editor : Editor) (outcome : Except StoreError Unit)
    : (editor.saved outcome).plotter = editor.plotter := by
  rw [saved_eq]

end Editor

namespace Workspace

/-- Saving tells the editor how the writing ended. -/
theorem editor_save (workspace : Workspace)
    : let outcome := workspace.files.save workspace.editor.path workspace.editor.source
      (workspace.act .save).editor = workspace.editor.saved (outcome.map fun _ => ()) := by
  rw [act]
  cases workspace.files.save workspace.editor.path workspace.editor.source <;> rfl

variable {settings : Settings} {files : FileTree}

theorem start_of_absent (absent : files.holds settings.programPath = false)
    : (start settings files).editor = .fresh settings := by
  simp only [start, absent]
  rfl

theorem start_of_found (found : files.holds settings.programPath = true)
    (quiet : settings.runOnStart = false)
    : (start settings files).editor
      = (Editor.fresh settings).loaded (files.load settings.programPath) := by
  simp only [start, found, Editor.opened, quiet]
  rfl

theorem start_of_run (found : files.holds settings.programPath = true)
    (runs : settings.runOnStart = true)
    : (start settings files).editor
      = ((Editor.fresh settings).loaded (files.load settings.programPath)).run := by
  simp only [start, found, Editor.opened, runs]
  rfl

end Workspace

end PenPlotter
