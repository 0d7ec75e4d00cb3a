import PenPlotter.Picture.Recording

/-!
Dropping what a wipe hides. A recording is cut before its last wipe and seen after it, so the cut
never touches what is visible, now or after any later calls.
-/

namespace PenPlotter

theorem Figure.isWipe_iff {figure : Figure} : figure.isWipe = true ↔ figure = .wipe := by
  cases figure <;> simp [isWipe]

namespace Recording

-----------------------------------------------------------------------------------------
-- The last wipe
-----------------------------------------------------------------------------------------

/-- What stands up to the last wipe is nothing, or begins with that wipe, newest first. -/
theorem upToWipe_cases (recording : Recording)
    : recording.upToWipe = [] ∨ ∃ hidden, recording.upToWipe = .wipe :: hidden := by
  have first := List.head?_dropWhile_not (fun figure : Figure => !figure.isWipe)
    recording.newestFirst
  cases known : recording.upToWipe with
  | nil => exact Or.inl rfl
  | cons figure hidden =>
      rw [upToWipe] at known
      rw [known] at first
      have wiped : figure = .wipe := Figure.isWipe_iff.mp (by simpa using first)
      exact Or.inr ⟨hidden, by rw [wiped]⟩

/-- A recording that was never wiped is visible as a whole and nothing of it is dropped. Any other
is cut at its last wipe, which stays.
-/
theorem figures_cases (recording : Recording)
    : (recording.figures = recording.visible
        ∧ recording.dropHidden.figures = recording.visible
        ∧ recording.hiddenCount = 0)
      ∨ ∃ hidden,
          recording.figures = hidden ++ .wipe :: recording.visible
          ∧ recording.dropHidden.figures = .wipe :: recording.visible
          ∧ recording.hiddenCount = hidden.length := by
  have whole : recording.figures = recording.upToWipe.reverse ++ recording.visible := by
    rw [figures, visible, upToWipe, ← List.reverse_append, List.takeWhile_append_dropWhile]
  have kept : recording.dropHidden.figures
      = (recording.upToWipe.take 1).reverse ++ recording.visible := by
    rw [figures, dropHidden, List.reverse_append, visible]
  rcases recording.upToWipe_cases with none | ⟨hidden, wiped⟩
  · rw [none] at whole kept
    exact Or.inl ⟨whole, kept, by rw [hiddenCount, none]; rfl⟩
  · rw [wiped] at whole kept
    refine Or.inr ⟨hidden.reverse, ?_, kept, ?_⟩
    · rw [whole, List.reverse_cons, List.append_assoc]
      rfl
    · rw [hiddenCount, wiped, List.length_reverse]
      rfl

/-- What is visible are the latest figures recorded. -/
theorem visible_suffix_figures (recording : Recording)
    : recording.visible <:+ recording.figures :=
  List.reverse_suffix.mpr (List.takeWhile_prefix _)

theorem wipe_not_mem_visible (recording : Recording) : .wipe ∉ recording.visible := by
  intro member
  have none : (recording.newestFirst.takeWhile fun figure => !figure.isWipe).all
      fun figure => !figure.isWipe := List.all_takeWhile
  have known := List.all_eq_true.mp none _ (List.mem_reverse.mp member)
  cases known

/-- After hidden figures are dropped a wipe is left before what is visible, if there was one. -/
theorem figures_dropHidden_eq_ite (recording : Recording)
    : recording.dropHidden.figures
      = (if .wipe ∈ recording.figures then [.wipe] else []) ++ recording.visible := by
  rcases recording.figures_cases with ⟨whole, kept, -⟩ | ⟨hidden, whole, kept, -⟩
  · rw [kept, whole, if_neg recording.wipe_not_mem_visible]
    rfl
  · have wiped : .wipe ∈ recording.figures := by simp [whole]
    rw [kept, if_pos wiped]
    rfl

theorem figures_dropHidden_suffix (recording : Recording)
    : recording.dropHidden.figures <:+ recording.figures := by
  rcases recording.figures_cases with ⟨whole, kept, -⟩ | ⟨hidden, whole, kept, -⟩
  · exact ⟨[], kept.trans whole.symm⟩
  · exact ⟨hidden, by rw [kept, whole]⟩

/-- What is dropped and what is kept are all there was. -/
theorem hiddenCount_add_length (recording : Recording)
    : recording.hiddenCount + recording.dropHidden.length = recording.length := by
  have counted (other : Recording) : other.length = other.figures.length :=
    List.length_reverse.symm
  rw [counted, counted]
  rcases recording.figures_cases with ⟨whole, kept, count⟩ | ⟨hidden, whole, kept, count⟩
  · rw [whole, kept, count, Nat.zero_add]
  · rw [whole, kept, count, List.length_append]

-----------------------------------------------------------------------------------------
-- Later calls
-----------------------------------------------------------------------------------------

theorem visible_push (recording : Recording) (figure : Figure)
    : (recording.push figure).visible
      = if figure.isWipe then [] else recording.visible ++ [figure] := by
  rw [visible, push, List.takeWhile_cons]
  cases figure.isWipe <;> simp [visible]

/-- Only a wipe changes what is kept of the figures before it. -/
theorem dropHidden_push (recording : Recording) (figure : Figure)
    : (recording.push figure).dropHidden
      = if figure.isWipe then ⟨[figure]⟩ else recording.dropHidden.push figure := by
  rw [dropHidden, upToWipe, push, List.takeWhile_cons, List.dropWhile_cons]
  cases figure.isWipe <;> simp [dropHidden, upToWipe, push]

@[elab_as_elim]
theorem push_induction {motive : Recording → Prop} (empty : motive {})
    (push
      : ∀ recording figure, motive recording → motive (Recording.push recording figure))
    (recording : Recording)
    : motive recording := by
  obtain ⟨newestFirst⟩ := recording
  induction newestFirst with
  | nil => exact empty
  | cons figure older ih => exact push ⟨older⟩ figure ih

@[simp]
theorem visible_dropHidden (recording : Recording)
    : recording.dropHidden.visible = recording.visible := by
  induction recording using push_induction with
  | empty => rfl
  | push recording figure ih =>
      rw [dropHidden_push, visible_push]
      cases known : figure.isWipe with
      | true => simp [visible, known]
      | false => simp [visible_push, known, ih]

@[simp]
theorem dropHidden_dropHidden (recording : Recording)
    : recording.dropHidden.dropHidden = recording.dropHidden := by
  induction recording using push_induction with
  | empty => rfl
  | push recording figure ih =>
      rw [dropHidden_push]
      cases known : figure.isWipe with
      | true => simp [dropHidden, upToWipe, known]
      | false => simp [dropHidden_push, known, ih]

theorem hiddenCount_dropHidden (recording : Recording)
    : recording.dropHidden.hiddenCount = 0 := by
  have again := recording.dropHidden.hiddenCount_add_length
  rw [dropHidden_dropHidden] at again
  omega

/-- Whether hidden figures were dropped before more were drawn cannot be told once they are
dropped afterwards, by induction on the later figures.
-/
theorem dropHidden_replay_dropHidden (more : List Figure) (recording : Recording)
    : (Canvas.replay more recording.dropHidden).dropHidden
      = (Canvas.replay more recording).dropHidden := by
  induction more generalizing recording with
  | nil => exact recording.dropHidden_dropHidden
  | cons figure more ih =>
      have first
          : (recording.dropHidden.push figure).dropHidden
            = (recording.push figure).dropHidden := by
        rw [dropHidden_push, dropHidden_push, dropHidden_dropHidden]
      rw [Canvas.replay_cons, Canvas.replay_cons, draw_eq_push, draw_eq_push,
        ← ih (recording.dropHidden.push figure), first, ih]

-----------------------------------------------------------------------------------------
-- Calls with drops among them
-----------------------------------------------------------------------------------------

/-- What is done with a recording: a call is drawn, or what is hidden is dropped. -/
inductive Step where
  | call (figure : Figure)
  | dropHidden

/-- The calls among steps, as they would be without any drops. -/
def Step.calls : List Step → List Figure
  | [] => []
  | .call figure :: steps => figure :: calls steps
  | .dropHidden :: steps => calls steps

def afterSteps (recording : Recording) : List Step → Recording
  | [] => recording
  | .call figure :: steps => (Canvas.draw figure recording).afterSteps steps
  | .dropHidden :: steps => recording.dropHidden.afterSteps steps

/-- The sum of what the drops among steps report. -/
def droppedBySteps (recording : Recording) : List Step → Nat
  | [] => 0
  | .call figure :: steps => (Canvas.draw figure recording).droppedBySteps steps
  | .dropHidden :: steps => recording.hiddenCount + recording.dropHidden.droppedBySteps steps

/-- One recording shows all that another does, and holds its latest figures. -/
structure IsCutOf (cut whole : Recording) : Prop where
  visible : cut.visible = whole.visible
  figures : cut.figures <:+ whole.figures

variable {cut whole : Recording}

theorem IsCutOf.refl (recording : Recording) : recording.IsCutOf recording :=
  ⟨rfl, List.suffix_refl _⟩

theorem IsCutOf.draw (h : cut.IsCutOf whole) (figure : Figure)
    : (Canvas.draw figure cut).IsCutOf (Canvas.draw figure whole) where
  visible := by rw [draw_eq_push, draw_eq_push, visible_push, visible_push, h.visible]
  figures := by
    obtain ⟨before, known⟩ := h.figures
    refine ⟨before, ?_⟩
    rw [draw_eq_push, draw_eq_push, figures_push, figures_push, ← known, List.append_assoc]

/-- Calls after one another cut alike, by induction on them. -/
theorem IsCutOf.replay (h : cut.IsCutOf whole) (more : List Figure)
    : (Canvas.replay more cut).IsCutOf (Canvas.replay more whole) := by
  induction more generalizing cut whole with
  | nil => exact h
  | cons figure more ih => exact ih (h.draw figure)

theorem IsCutOf.dropHidden (h : cut.IsCutOf whole) : cut.dropHidden.IsCutOf whole where
  visible := by rw [visible_dropHidden, h.visible]
  figures := cut.figures_dropHidden_suffix.trans h.figures

/-- Drops among calls only cut, by induction on the steps. -/
theorem IsCutOf.afterSteps (h : cut.IsCutOf whole) (steps : List Step)
    : (cut.afterSteps steps).IsCutOf (Canvas.replay (Step.calls steps) whole) := by
  induction steps generalizing cut whole with
  | nil => exact h
  | cons step steps ih =>
      cases step with
      | call figure => exact ih (h.draw figure)
      | dropHidden => exact ih h.dropHidden

/-- Every call is kept or reported as dropped, by induction on the steps. -/
theorem droppedBySteps_add_length (recording : Recording) (steps : List Step)
    : recording.droppedBySteps steps + (recording.afterSteps steps).length
      = recording.length + (Step.calls steps).length := by
  induction steps generalizing recording with
  | nil => simp [droppedBySteps, Recording.afterSteps, Step.calls]
  | cons step steps ih =>
      cases step with
      | call figure =>
          have rest := ih (Canvas.draw figure recording)
          have one : (Canvas.draw figure recording).length = recording.length + 1 := by
            rw [draw_eq_push]
            rfl
          rw [one] at rest
          simp only [droppedBySteps, Recording.afterSteps, Step.calls, List.length_cons]
          omega
      | dropHidden =>
          have rest := ih recording.dropHidden
          have here := recording.hiddenCount_add_length
          simp only [droppedBySteps, Recording.afterSteps, Step.calls]
          omega

/-- Drops cannot be seen. After any calls with drops at any places among them, what is visible is
what it would be without the drops, what is recorded are the latest of the calls, and the calls
are as many as those recorded and those reported as dropped. Right after a drop a wipe can only
stand first, and dropping again finds nothing to drop.
-/
theorem drops_cannot_be_seen (start : Recording) (steps : List Step)
    : let cut := start.afterSteps steps
      let whole := Canvas.replay (Step.calls steps) start
      let settled := cut.dropHidden
      cut.visible = whole.visible
      ∧ cut.figures <:+ whole.figures
      ∧ start.droppedBySteps steps + cut.length = start.length + (Step.calls steps).length
      ∧ .wipe ∉ settled.figures.tail
      ∧ settled.hiddenCount = 0
      ∧ settled.dropHidden = settled := by
  intro cut whole settled
  have same : cut.IsCutOf whole := (IsCutOf.refl start).afterSteps steps
  refine ⟨same.visible, same.figures, start.droppedBySteps_add_length steps, ?_,
    cut.hiddenCount_dropHidden, cut.dropHidden_dropHidden⟩
  have clear := cut.wipe_not_mem_visible
  rw [cut.figures_dropHidden_eq_ite]
  split
  · exact clear
  · exact fun member => clear (List.mem_of_mem_tail member)

end Recording

end PenPlotter
