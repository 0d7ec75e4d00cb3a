import PenPlotter.Editor.Basic

/-!
The editor among files. Each action of the user changes the editor, and saving changes the files
too.
-/

namespace PenPlotter

inductive Action where
  | setSource (text : String)
  | setPath (path : String)
  | run
  | check
  | clearCanvas
  | load
  | save
  | enter (line : String)
  | openTab (tab : Tab)
deriving DecidableEq, Repr

/-- The editor together with the files around it. -/
structure Workspace where
  editor : Editor
  files : FileTree

namespace Workspace

def edit (workspace : Workspace) (change : Editor → Editor) : Workspace :=
  { workspace with editor := change workspace.editor }

def act (workspace : Workspace) : Action → Workspace
  | .setSource text => workspace.edit fun editor => { editor with source := text }
  | .setPath path => workspace.edit fun editor => { editor with path }
  | .run => workspace.edit Editor.run
  | .check => workspace.edit Editor.check
  | .clearCanvas => workspace.edit Editor.clearCanvas
  | .load => workspace.edit fun editor => editor.loaded (workspace.files.load editor.path)
  | .save =>
      match workspace.files.save workspace.editor.path workspace.editor.source with
      | .ok files => ⟨workspace.editor.saved (.ok ()), files⟩
      | .error error => workspace.edit fun editor => editor.saved (.error error)
  | .enter line => workspace.edit fun editor => { editor with command := line }.submit
  | .openTab tab => workspace.edit fun editor => { editor with tab }

/-- A workspace as it opens on files that are there. -/
def start (settings : Settings) (files : FileTree) : Workspace :=
  let found := if files.holds settings.programPath then some (files.load settings.programPath)
    else none
  ⟨.opened settings found, files⟩

end Workspace

end PenPlotter
