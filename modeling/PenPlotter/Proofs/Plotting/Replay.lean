import PenPlotter.Proofs.Picture.Hiding
import PenPlotter.Proofs.Plotting.Instructions

/-!
A canvas is only written. Whatever a plotter does can be done on a recording, and the recorded
figures replayed onto the canvas, with the same pen and the same result.
-/

namespace PenPlotter

universe u

variable {κ : Type u} [Canvas κ] {α ε δ : Type}

/-- A plotter on a canvas that a recording is replayed onto. -/
def Plotter.onto (recorded : Plotter Recording) (canvas : κ) : Plotter κ :=
  ⟨recorded.pen, Canvas.replay recorded.canvas.figures canvas⟩

def Outcome.onto (recorded : Outcome Recording ε) (canvas : κ) : Outcome κ ε :=
  ⟨recorded.plotter.onto canvas, recorded.result⟩

namespace Outcome

theorem mapError_onto (recorded : Outcome Recording ε) (describe : ε → δ) (canvas : κ)
    : (recorded.onto canvas).mapError describe = (recorded.mapError describe).onto canvas :=
  rfl

/-- Going on can wait for the replay, by cases on the result. -/
theorem andThen_onto {recorded : Outcome Recording ε} {canvas : κ}
    {next : Plotter κ → Outcome κ ε} {recordedNext : Plotter Recording → Outcome Recording ε}
    (same : ∀ plotter, next (plotter.onto canvas) = (recordedNext plotter).onto canvas)
    : (recorded.onto canvas).andThen next = (recorded.andThen recordedNext).onto canvas := by
  rcases recorded.result_cases with succeeded | ⟨fault, failed⟩
  · have passed : (recorded.onto canvas).result = .ok () := succeeded
    rw [andThen_of_ok passed, andThen_of_ok succeeded]
    exact same recorded.plotter
  · have stopped : (recorded.onto canvas).result = .error fault := failed
    rw [andThen_of_error stopped, andThen_of_error failed]

end Outcome

namespace Plotter

open Outcome

theorem perform_onto (recorded : Plotter Recording) (canvas : κ) (instruction : Instruction)
    : (recorded.onto canvas).perform instruction
      = (recorded.perform instruction).onto canvas := by
  rw [perform_eq, perform_eq, Outcome.onto, onto, onto, Recording.figures_replay,
    Canvas.replay_append]

theorem attempt_onto (recorded : Plotter Recording) (canvas : κ) (line : String)
    : (recorded.onto canvas).attempt line = (recorded.attempt line).onto canvas := by
  rw [attempt, attempt]
  cases Instruction.parse line with
  | error fault => rfl
  | ok instruction => exact recorded.perform_onto canvas instruction

theorem runLine_onto (recorded : Plotter Recording) (canvas : κ) (line : Text.SourceLine)
    : (recorded.onto canvas).runLine line = (recorded.runLine line).onto canvas := by
  rw [runLine, attempt_onto, mapError_onto]
  rfl

/-- A row of steps can be recorded and replayed when each of its steps can, by induction on the
row.
-/
theorem each_onto {canvas : κ} {step : Plotter κ → α → Outcome κ ε}
    {recordedStep : Plotter Recording → α → Outcome Recording ε}
    (same
      : ∀ recorded item,
          step (Plotter.onto recorded canvas) item = (recordedStep recorded item).onto canvas)
    (recorded : Plotter Recording) (items : List α)
    : (recorded.onto canvas).each step items
      = (recorded.each recordedStep items).onto canvas := by
  induction items generalizing recorded with
  | nil => rfl
  | cons item items ih =>
      rw [each_cons, each_cons, same]
      exact andThen_onto ih

theorem run_onto (recorded : Plotter Recording) (canvas : κ) (program : String)
    : (recorded.onto canvas).run program = (recorded.run program).onto canvas :=
  each_onto (runLine_onto · canvas ·) recorded.reset (Text.sourceLines program)

theorem runCommand_onto (recorded : Plotter Recording) (canvas : κ) (line : String)
    : (recorded.onto canvas).runCommand line = (recorded.runCommand line).onto canvas := by
  simp only [runCommand, runLine_onto]
  split
  · rfl
  · rfl

-----------------------------------------------------------------------------------------
-- Programs and commands in a row
-----------------------------------------------------------------------------------------

/-- What a plotter is given: a whole program, or a single command. -/
inductive Input where
  | program (text : String)
  | command (line : String)

/-- The plotter after an input. Whether it failed is not asked. -/
def feed (plotter : Plotter κ) : Input → Plotter κ
  | .program text => (plotter.run text).plotter
  | .command line => (plotter.runCommand line).plotter

def feedAll (plotter : Plotter κ) (inputs : List Input) : Plotter κ :=
  inputs.foldl feed plotter

theorem feedAll_append (plotter : Plotter κ) (inputs more : List Input)
    : plotter.feedAll (inputs ++ more) = (plotter.feedAll inputs).feedAll more :=
  List.foldl_append

theorem feed_onto (recorded : Plotter Recording) (canvas : κ) (input : Input)
    : (recorded.onto canvas).feed input = (recorded.feed input).onto canvas := by
  cases input with
  | program text => simp only [feed, run_onto, Outcome.onto]
  | command line => simp only [feed, runCommand_onto, Outcome.onto]

-----------------------------------------------------------------------------------------
-- Plotters without what is hidden
-----------------------------------------------------------------------------------------

def withoutHidden (plotter : Plotter Recording) : Plotter Recording :=
  { plotter with canvas := plotter.canvas.dropHidden }

/-- Dropping what is hidden before an input makes no difference once it is dropped after it: the
input draws the same figures on either canvas.
-/
theorem withoutHidden_feed_withoutHidden (plotter : Plotter Recording) (input : Input)
    : (plotter.withoutHidden.feed input).withoutHidden
      = (plotter.feed input).withoutHidden := by
  have cut : plotter.withoutHidden.feed input
      = (feed ⟨plotter.pen, {}⟩ input).onto plotter.canvas.dropHidden :=
    feed_onto ⟨plotter.pen, {}⟩ plotter.canvas.dropHidden input
  have whole : plotter.feed input = (feed ⟨plotter.pen, {}⟩ input).onto plotter.canvas :=
    feed_onto ⟨plotter.pen, {}⟩ plotter.canvas input
  rw [cut, whole]
  simp only [withoutHidden, onto, Recording.dropHidden_replay_dropHidden]

end Plotter

end PenPlotter
