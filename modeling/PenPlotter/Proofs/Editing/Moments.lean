import PenPlotter.Proofs.Editing.Sessions

/-!
Sessions moment by moment. Besides the events there is typing in the command field, which changes
that field alone. What comes up in a session is gathered as it goes, so that what the editor holds
can be told from all that came up before.
-/

namespace PenPlotter

/-- A moment of a session: an event, or typing in the command field without entering the line. -/
inductive Moment where
  | event (event : Event)
  | typing (command : String)

namespace Workspace

variable {α : Type}

def afterMoment (workspace : Workspace) : Moment → Workspace
  | .event event => workspace.after event
  | .typing command => workspace.edit fun editor => { editor with command }

def afterMoments (workspace : Workspace) (moments : List Moment) : Workspace :=
  moments.foldl afterMoment workspace

/-- What comes up in a session, in order. -/
def gather (found : Workspace → Moment → List α) (workspace : Workspace) : List Moment → List α
  | [] => []
  | moment :: moments =>
      found workspace moment ++ (workspace.afterMoment moment).gather found moments

variable {found : Workspace → Moment → List α}

/-- A list to which each moment adds what is told of what comes up holds in the end what is told of
all that came up. By induction on the moments.
-/
theorem afterMoments_appends {β : Type} (view : Workspace → List β) {told : α → List β}
    (adds
      : ∀ workspace moment,
          view (afterMoment workspace moment)
            = view workspace ++ (found workspace moment).flatMap told)
    (workspace : Workspace) (moments : List Moment)
    : view (workspace.afterMoments moments)
      = view workspace ++ (workspace.gather found moments).flatMap told := by
  induction moments generalizing workspace with
  | nil => exact (List.append_nil _).symm
  | cons moment moments ih =>
      have later := ih (workspace.afterMoment moment)
      rw [adds, List.append_assoc, ← List.flatMap_append] at later
      exact later

/-- What each moment replaces by what comes up last, if anything does, is in the end what came up
last of all. By induction on the moments.
-/
theorem afterMoments_replaces (view : Workspace → α)
    (replaces
      : ∀ workspace moment,
          view (afterMoment workspace moment)
            = (found workspace moment).getLast?.getD (view workspace))
    (workspace : Workspace) (moments : List Moment)
    : view (workspace.afterMoments moments)
      = (workspace.gather found moments).getLast?.getD (view workspace) := by
  induction moments generalizing workspace with
  | nil => rfl
  | cons moment moments ih =>
      have later := ih (workspace.afterMoment moment)
      rw [replaces] at later
      rw [gather, List.getLast?_append, Option.getD_or]
      exact later

end Workspace

end PenPlotter
