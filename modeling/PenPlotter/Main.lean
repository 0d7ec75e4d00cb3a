import PenPlotter.Editor.CommandLine
import PenPlotter.Editor.View
import PenPlotter.Editor.Workspace

/-!
The editor in a terminal. Lines from standard input are commands for the pen, and lines that
begin with a colon are for the editor itself; after each of them the editor shows its texts.
-/

namespace PenPlotter.Terminal

/-- What a line typed in the terminal asks for. -/
inductive Request where
  | act (action : Action)
  | quit
deriving DecidableEq, Repr

/-- The actions that have a word of their own. -/
def actionWords : List (String × Action) :=
  [(":run", .run), (":syntax", .check), (":clear", .clearCanvas), (":load", .load),
    (":save", .save), (":canvas", .openTab .canvas), (":commands", .openTab .commands),
    (":messages", .openTab .messages)]

/-- The request that a line spells. Whatever is not for the editor is a command for the pen. -/
def Request.ofLine (line : String) : Request :=
  match Text.words line with
  | [":quit"] => .quit
  | [":path", path] => .act (.setPath path)
  | [word] => .act ((actionWords.lookup word).getD (.enter line))
  | _ => .act (.enter line)

/-- What is said when the command line gives no settings. -/
def refusal : ArgumentError → String
  | .unknownArgument => "unknown argument"
  | .missingValue => "an option or the program file lacks its value"
  | .notASize => "a size is a whole number below 2^32"
  | .repeated => "an option is given twice"
  | .unexpectedValue => "an option is given a value that it does not take"
  | .helpAsked => "usage: [PROGRAM] [--width WIDTH] [--height HEIGHT] [--run]"
  | .versionAsked => "pen plotter 1"

/-- The cause of a failure that the system reports. -/
def causeOf : IO.Error → FileError
  | .inappropriateType .. => .isAFolder
  | .resourceExhausted .. => .nameTooLong
  | _ => .notFound

def readText (path : String) : IO (Except StoreError String) := do
  match ← (IO.FS.readBinFile path).toBaseIO with
  | .ok content => return (String.fromUTF8? content).elim (.error (.read path .notText)) .ok
  | .error error => return .error (.read path (causeOf error))

def writeText (path text : String) : IO (Except StoreError Unit) := do
  match ← (IO.FS.writeFile path text).toBaseIO with
  | .ok () => return .ok ()
  | .error error => return .error (.write path (causeOf error))

/-- Carries out an action on the files of the system. -/
def perform (editor : Editor) : Action → IO Editor
  | .load => return editor.loaded (← readText editor.path)
  | .save => return editor.saved (← writeText editor.path editor.source)
  | action => return ((Workspace.mk editor .empty).act action).editor

def display (editor : Editor) : IO Unit := do
  editor.view.forM IO.println
  (← IO.getStdout).flush

/-- Answers lines until the input ends. -/
partial def loop (input : IO.FS.Stream) (editor : Editor) : IO Unit := do
  let line ← input.getLine
  if line.isEmpty then return
  match Request.ofLine line with
  | .quit => return
  | .act action =>
      let editor ← perform editor action
      display editor
      loop input editor

end PenPlotter.Terminal

/-- Opens the editor with the settings of the command line. -/
def main (arguments : List String) : IO UInt32 := do
  match PenPlotter.Settings.ofArguments arguments with
  | .error error =>
      IO.eprintln (PenPlotter.Terminal.refusal error)
      return if error = .helpAsked || error = .versionAsked then 0 else 2
  | .ok settings =>
      let outcome ← PenPlotter.Terminal.readText settings.programPath
      let found := match outcome with
        | .error (.read _ .notFound) => none
        | outcome => some outcome
      let editor := PenPlotter.Editor.opened settings found
      PenPlotter.Terminal.display editor
      PenPlotter.Terminal.loop (← IO.getStdin) editor
      return 0
