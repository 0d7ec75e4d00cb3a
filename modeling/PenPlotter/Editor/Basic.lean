import PenPlotter.Editor.Settings
import PenPlotter.Files.Store
import PenPlotter.Language.Check
import PenPlotter.Language.Plotter

/-!
The editor: a program being written, a plotter it is run on, and the messages that came of it.
Every action that may draw ends by dropping what the last wipe hides, so what is kept never grows
with what was wiped. Messages are only ever added.
-/

namespace PenPlotter

/-- What the editor shows beside the program. -/
inductive Tab where
  | canvas
  | commands
  | messages
deriving DecidableEq, Repr

/-- A message to the user, about success or failure. -/
inductive Message where
  | info (text : String)
  | error (text : String)
deriving DecidableEq, Repr

namespace Message

def text : Message → String
  | .info text | .error text => text

def isError : Message → Bool
  | .info _ => false
  | .error _ => true

end Message

/-- The state of the editor. Messages stand oldest first. -/
structure Editor where
  settings : Settings
  source : String
  path : String
  command : String := ""
  tab : Tab := .canvas
  plotter : Plotter Recording := ⟨{}, {}⟩
  messages : List Message := []

namespace Editor

/-- The program that the editor opens with. -/
def sample : String :=
  "moveto 100 100\ncolor blue\ndrawto 300 100\nfill on\ncolor orange\ncircle 40\nfill off\n"
    ++ "rectangle 350 60 120 80\ntriangle 100 300 200 200 300 300\n"

def fresh (settings : Settings) : Editor :=
  { settings, source := sample, path := settings.programPath }

def report (editor : Editor) (message : Message) : Editor :=
  { editor with messages := editor.messages ++ [message] }

/-- The text of the last message, if it is an error. -/
def lastError? (editor : Editor) : Option String :=
  (editor.messages.getLast?.filter Message.isError).map Message.text

def errorCount (editor : Editor) : Nat :=
  editor.messages.countP Message.isError

/-- Takes the plotter back after drawing, without what is hidden. -/
def keepPlotter (editor : Editor) (plotter : Plotter Recording) : Editor :=
  { editor with plotter := { plotter with canvas := plotter.canvas.dropHidden } }

def run (editor : Editor) : Editor :=
  let outcome := editor.plotter.run editor.source
  let message := match outcome.result with
    | .ok () => Message.info "run ok"
    | .error error => Message.error error.message
  (editor.report message).keepPlotter outcome.plotter

/-- Checks the form of the program. Only violations turn the user's eye to the messages. -/
def check (editor : Editor) : Editor :=
  let form := FormReport.ofProgram editor.source
  if form.isValid then editor.report (.info form.message)
  else
    { editor with
      tab := .messages
      messages := editor.messages ++ form.violations.map fun violation =>
        .error violation.message }

/-- Wipes the canvas, as the command for it does. -/
def clearCanvas (editor : Editor) : Editor :=
  editor.keepPlotter (editor.plotter.runCommand Command.clear.keyword).plotter

/-- Runs the line in the command field and empties the field. Only failure is reported. -/
def submit (editor : Editor) : Editor :=
  let line := editor.command
  let outcome := editor.plotter.runCommand line
  let emptied := { editor with command := "" }
  let reported := match outcome.result with
    | .ok () => emptied
    | .error error =>
        emptied.report (.error ("`" ++ Text.trim line ++ "`: " ++ error.fault.message))
  reported.keepPlotter outcome.plotter

/-- Takes in the outcome of reading a file. A failure leaves the program as it was. -/
def loaded (editor : Editor) : Except StoreError String → Editor
  | .ok text => { editor with source := text }.report (.info ("loaded " ++ editor.path))
  | .error error => editor.report (.error error.message)

def saved (editor : Editor) : Except StoreError Unit → Editor
  | .ok () => editor.report (.info ("saved " ++ editor.path))
  | .error error => editor.report (.error error.message)

/-- The editor as it opens, given the outcome of reading the program file if there is one. The
program is run at once when the settings ask for it.
-/
def opened (settings : Settings) : Option (Except StoreError String) → Editor
  | none => fresh settings
  | some outcome =>
      let editor := (fresh settings).loaded outcome
      if settings.runOnStart then editor.run else editor

end Editor

end PenPlotter
