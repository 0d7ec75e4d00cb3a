import PenPlotter.Proofs.Plotting.Replay

/-!
A program does not depend on what came before it. It starts from a fresh pen and only adds to
what is recorded, so it reports and draws what it does on an empty recording. Once it wipes the
canvas, what is left after hidden figures are dropped is its own work, however often it was run.
-/

namespace PenPlotter

namespace Recording

/-- Once a wipe is among the figures that are drawn, what is kept does not depend on the figures
before them. By induction on the figures, up to the first wipe.
-/
theorem dropHidden_replay_of_wipe {more : List Figure} (wiped : .wipe ∈ more)
    (recording other : Recording)
    : (Canvas.replay more recording).dropHidden = (Canvas.replay more other).dropHidden := by
  induction more generalizing recording other with
  | nil => cases wiped
  | cons figure more ih =>
      rcases List.mem_cons.mp wiped with rfl | later
      · have same : (recording.push .wipe).dropHidden = (other.push .wipe).dropHidden := by
          rw [dropHidden_push, dropHidden_push]
          rfl
        rw [Canvas.replay_cons, Canvas.replay_cons, draw_eq_push, draw_eq_push,
          ← dropHidden_replay_dropHidden, same, dropHidden_replay_dropHidden]
      · exact ih later _ _

end Recording

namespace Plotter

/-- A program is run on a canvas as it is run on an empty recording, whose figures are then drawn
on the canvas. Its reset forgets the pen.
-/
theorem run_eq_record_onto {κ : Type*} [Canvas κ] (plotter : Plotter κ) (program : String)
    : plotter.run program = (record program).onto plotter.canvas :=
  run_onto ⟨{}, {}⟩ plotter.canvas program

theorem withoutHidden_onto_of_wipe {recorded : Plotter Recording}
    (wiped : .wipe ∈ recorded.canvas.figures) (recording other : Recording)
    : (recorded.onto recording).withoutHidden = (recorded.onto other).withoutHidden := by
  simp only [withoutHidden, onto, Recording.dropHidden_replay_of_wipe wiped recording other]

/-- A run does not depend on history. Whatever was set and recorded before, a program has the same
result, leaves the same pen, and records the same figures after the earlier ones as it does from
the start, whether it succeeds or fails. So when it wipes the canvas, running it twice leaves the
same pen and the same figures as running it once, after what is hidden is dropped.
-/
theorem run_forgets_history (plotter : Plotter Recording) (program : String)
    : let fresh := record program
      let once := plotter.run program
      let twice := once.plotter.run program
      once.result = fresh.result
      ∧ once.plotter.pen = fresh.plotter.pen
      ∧ once.plotter.canvas.figures
        = plotter.canvas.figures ++ fresh.plotter.canvas.figures
      ∧ (.wipe ∈ fresh.plotter.canvas.figures
        → twice.plotter.withoutHidden = once.plotter.withoutHidden) := by
  intro fresh once twice
  have first : once = fresh.onto plotter.canvas := plotter.run_eq_record_onto program
  have second : twice = fresh.onto once.plotter.canvas :=
    once.plotter.run_eq_record_onto program
  refine ⟨by rw [first]; rfl, by rw [first]; rfl, ?_, ?_⟩
  · rw [first]
    exact Recording.figures_replay _ plotter.canvas
  · intro wiped
    calc twice.plotter.withoutHidden
        = (fresh.plotter.onto once.plotter.canvas).withoutHidden := by rw [second]; rfl
      _ = (fresh.plotter.onto plotter.canvas).withoutHidden :=
        withoutHidden_onto_of_wipe wiped once.plotter.canvas plotter.canvas
      _ = once.plotter.withoutHidden := by rw [first]; rfl

/-- A program that wipes the canvas and then fails, after figures and settings of another. -/
theorem run_forgets_history_sample
    : let earlier : Plotter Recording :=
        ⟨⟨⟨3, 4⟩, .white, true⟩, Recording.push {} (.line .origin ⟨3, 4⟩ .white)⟩
      let program := "clear\ncircle 1\ncolor puce\nclear"
      (record program).plotter.canvas.figures
        = [.wipe, .ellipse (Box.around .origin 1) .black false]
      ∧ .wipe ∈ (record program).plotter.canvas.figures
      ∧ ((earlier.run program).plotter.run program).plotter.withoutHidden
        = (earlier.run program).plotter.withoutHidden
      ∧ (earlier.run program).result = .error ⟨3, .unknownColor "puce"⟩ := by
  intro earlier program
  have drawn
      : (record program).plotter.canvas.figures
        = [.wipe, .ellipse (Box.around .origin 1) .black false] := by
    subst program
    rfl
  have failed : (record program).result = .error ⟨3, .unknownColor "puce"⟩ := by
    subst program
    rfl
  have wiped : .wipe ∈ (record program).plotter.canvas.figures := by
    rw [drawn]
    exact List.mem_cons_self
  obtain ⟨result, -, -, settled⟩ := run_forgets_history earlier program
  exact ⟨drawn, wiped, settled wiped, result.trans failed⟩

end Plotter

end PenPlotter
