import PenPlotter.Proofs.Plotting.Replay

/-!
All canvases serve alike. What a plotter answers and where its pen goes never depend on what it
draws on, and whatever it does to a canvas is a replay of what it would record. A canvas behind
handles is drawn on as if it were there itself.
-/

namespace PenPlotter

universe u

-----------------------------------------------------------------------------------------
-- Handles behind handles
-----------------------------------------------------------------------------------------

namespace Canvas

variable {κ : Type u} [Canvas κ]

/-- A canvas behind a number of handles, each of which stands for the next. -/
def Behind (κ : Type u) : Nat → Type u
  | 0 => κ
  | depth + 1 => Handle (Behind κ depth)

instance Behind.instCanvas : (depth : Nat) → Canvas (Behind κ depth)
  | 0 => inferInstanceAs (Canvas κ)
  | depth + 1 =>
      let _ := instCanvas depth
      inferInstanceAs (Canvas (Handle (Behind κ depth)))

/-- The canvas behind all of the handles. -/
def Behind.target : (depth : Nat) → Behind κ depth → κ
  | 0, canvas => canvas
  | depth + 1, handle => target depth (Handle.target handle)

/-- Drawing reaches the canvas behind the handles, by induction on their number. -/
theorem Behind.target_draw {depth : Nat} (figure : Figure) (canvas : Behind κ depth)
    : target depth (draw figure canvas) = draw figure (target depth canvas) := by
  induction depth with
  | zero => rfl
  | succ depth ih =>
      have passed := Canvas.target_draw (κ := Behind κ depth) figure canvas
      exact (congrArg (target depth) passed).trans (ih (Handle.target canvas))

theorem Behind.target_replay {depth : Nat} (figures : List Figure) (canvas : Behind κ depth)
    : target depth (replay figures canvas) = replay figures (target depth canvas) := by
  induction figures generalizing canvas with
  | nil => rfl
  | cons figure figures ih => rw [replay_cons, ih, target_draw, replay_cons]

end Canvas

namespace Plotter

variable {κ : Type u} [Canvas κ]

-----------------------------------------------------------------------------------------
-- Requests
-----------------------------------------------------------------------------------------

/-- What a plotter can be asked to do. -/
inductive Request where
  | run (program : String)
  | runCommand (line : String)
  | perform (instruction : Instruction)
  | reset

/-- What comes back from a request. -/
inductive Reply where
  | ofLines (result : Except RunError Unit)
  | ofInstruction (result : Except Fault Unit)
  | done

/-- The plotter after a request, with the reply. -/
def answer (plotter : Plotter κ) : Request → Plotter κ × Reply
  | .run program => ((plotter.run program).plotter, .ofLines (plotter.run program).result)
  | .runCommand line =>
      ((plotter.runCommand line).plotter, .ofLines (plotter.runCommand line).result)
  | .perform instruction =>
      ((plotter.perform instruction).plotter,
        .ofInstruction (plotter.perform instruction).result)
  | .reset => (plotter.reset, .done)

/-- The pens that a request takes the plotter through. A program takes it to a fresh pen, and then
to a pen after each of its lines.
-/
def pensThrough (plotter : Plotter κ) : Request → List Pen
  | .run program =>
      (Text.sourceLines program).inits.map fun lines =>
        (plotter.reset.runLines lines).plotter.pen
  | request => [(plotter.answer request).1.pen]

/-- The plotter after requests, one after another. -/
def serve (plotter : Plotter κ) (requests : List Request) : Plotter κ :=
  requests.foldl (fun plotter request => (plotter.answer request).1) plotter

/-- All that can be seen of requests without looking at the canvas: for each of them the pens on
the way and the reply.
-/
def observed (plotter : Plotter κ) : List Request → List (List Pen × Reply)
  | [] => []
  | request :: requests =>
      (plotter.pensThrough request, (plotter.answer request).2)
        :: (plotter.answer request).1.observed requests

variable (recorded : Plotter Recording) (canvas : κ)

theorem runLines_onto (lines : List Text.SourceLine)
    : (recorded.onto canvas).runLines lines = (recorded.runLines lines).onto canvas :=
  each_onto (runLine_onto · canvas ·) recorded lines

theorem answer_onto (request : Request)
    : (recorded.onto canvas).answer request
      = ((recorded.answer request).1.onto canvas, (recorded.answer request).2) := by
  cases request with
  | run program => simp only [answer, run_onto, Outcome.onto]
  | runCommand line => simp only [answer, runCommand_onto, Outcome.onto]
  | perform instruction => simp only [answer, perform_onto, Outcome.onto]
  | reset => rfl

theorem pensThrough_onto (request : Request)
    : (recorded.onto canvas).pensThrough request = recorded.pensThrough request := by
  cases request with
  | run program =>
      apply List.map_congr_left
      intro lines _
      exact congrArg (·.plotter.pen) (runLines_onto recorded.reset canvas lines)
  | _ => exact congrArg (fun answer => [answer.1.pen]) (recorded.answer_onto canvas _)

/-- Requests can be served on a recording, and the figures replayed at the end. By induction on the
requests.
-/
theorem serve_onto (requests : List Request)
    : (recorded.onto canvas).serve requests = (recorded.serve requests).onto canvas := by
  induction requests generalizing recorded with
  | nil => rfl
  | cons request requests ih =>
      simp only [serve, List.foldl_cons, answer_onto]
      exact ih (recorded.answer request).1

theorem observed_onto (requests : List Request)
    : (recorded.onto canvas).observed requests = recorded.observed requests := by
  induction requests generalizing recorded with
  | nil => rfl
  | cons request requests ih => simp only [observed, pensThrough_onto, answer_onto, ih]

/-- The canvas is only written, and recording loses nothing. Whatever is asked of a plotter, on
every canvas the replies and the pens on the way are those on a recording, and the canvas ends as
the figures that the recording gained leave it, drawn on it one by one. A recording behind any
number of handles gains the same figures.
-/
theorem canvas_is_only_written (pen : Pen) (canvas : κ) (recording : Recording)
    (requests : List Request)
    : let drawn := serve ⟨pen, canvas⟩ requests
      let kept := serve ⟨pen, recording⟩ requests
      observed ⟨pen, canvas⟩ requests = observed ⟨pen, recording⟩ requests
      ∧ drawn.pen = kept.pen
      ∧ ∃ gained,
          kept.canvas.figures = recording.figures ++ gained
          ∧ drawn.canvas = Canvas.replay gained canvas
          ∧ ∀ depth (handle : Canvas.Behind Recording depth),
              let behind := serve ⟨pen, handle⟩ requests
              (Canvas.Behind.target depth behind.canvas).figures
                = (Canvas.Behind.target depth handle).figures ++ gained := by
  intro drawn kept
  let blank : Plotter Recording := ⟨pen, {}⟩
  have onCanvas : drawn = (blank.serve requests).onto canvas := blank.serve_onto canvas requests
  have onRecording : kept = (blank.serve requests).onto recording :=
    blank.serve_onto recording requests
  refine ⟨?_, ?_, (blank.serve requests).canvas.figures, ?_, ?_, ?_⟩
  · exact (blank.observed_onto canvas requests).trans
      (blank.observed_onto recording requests).symm
  · rw [onCanvas, onRecording]
    rfl
  · rw [onRecording]
    exact Recording.figures_replay _ recording
  · rw [onCanvas]
    rfl
  · intro depth handle behind
    have onHandle : behind = (blank.serve requests).onto handle :=
      blank.serve_onto handle requests
    rw [onHandle, onto, Canvas.Behind.target_replay, Recording.figures_replay]

end Plotter

end PenPlotter
