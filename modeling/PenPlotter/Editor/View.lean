import PenPlotter.Editor.Basic
import PenPlotter.Editor.Painting

/-!
What the editor shows: the status, the pen, the names of the tabs, and the content of the tab
that is open. The canvas itself shows no text but the painted figures that are visible.
-/

namespace PenPlotter

namespace Editor

/-- The status: the last error, as long as no other message came after it. -/
def statusText (editor : Editor) : String :=
  match editor.lastError? with
  | none => "✓  ok"
  | some text => "✗  " ++ text

def penText (pen : Pen) : String :=
  "cursor " ++ pen.position.text ++ "  pen " ++ pen.color.text ++ "  fill " ++ pen.fillWord

/-- The name of the third tab, with the number of errors when there are any. -/
def messagesLabel (editor : Editor) : String :=
  if editor.errorCount = 0 then "Messages"
  else "Messages (" ++ toString editor.errorCount ++ ")"

/-- The texts for the figures recorded, each after its number. -/
def figureTexts (figures : List Figure) : List String :=
  (figures.zipIdx 1).flatMap fun entry => ["[" ++ toString entry.2 ++ "]", entry.1.text]

/-- The texts in a tab. Messages are shown newest first. -/
def tabTexts (editor : Editor) : Tab → List String
  | .canvas => []
  | .commands =>
      if editor.plotter.canvas.isEmpty then ["Nothing drawn yet."]
      else figureTexts editor.plotter.canvas.figures
  | .messages =>
      if editor.messages.isEmpty then ["No messages."]
      else editor.messages.reverse.map Message.text

/-- All texts beside the program, from top to bottom. -/
def view (editor : Editor) : List String :=
  [editor.statusText, penText editor.plotter.pen, "Canvas", "Commands", editor.messagesLabel]
    ++ editor.tabTexts editor.tab

/-- The shapes that the canvas tab paints into an area as large as the settings ask for. -/
def shapes (editor : Editor) (screen : ScreenArea) (corner : ScreenPoint) : List Shape :=
  let area := ScreenArea.ofCorner corner.x corner.y editor.settings.canvasWidth
    editor.settings.canvasHeight
  Painting.paint screen area editor.settings.background editor.plotter.canvas.visible

end Editor

end PenPlotter
