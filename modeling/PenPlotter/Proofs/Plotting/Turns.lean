import PenPlotter.Proofs.Plotting.LineFaults
import PenPlotter.Proofs.Plotting.Replay
import PenPlotter.Proofs.Text.Words

/-!
Sessions driven by texts: programs, single commands and resets, one after another. A plotter is
changed by resets and by the instructions of the lines that are carried out, and by nothing else,
so whatever holds at first and is kept by these holds at the end of every session.
-/

namespace PenPlotter

/-- Trimming a line changes nothing in what it is read as. -/
theorem Instruction.parse_trim (line : String) : parse (Text.trim line) = parse line := by
  rw [parse_eq_ofWords, parse_eq_ofWords, Text.words_trim]

namespace Plotter

universe u

open Outcome

variable {κ : Type u} {α ε : Type}

-----------------------------------------------------------------------------------------
-- The steps of a row that are taken
-----------------------------------------------------------------------------------------

section

variable {step : Plotter κ → α → Outcome κ ε}

theorem stepsTaken_cons_of_ok {plotter : Plotter κ} {item : α}
    (succeeded : (step plotter item).result = .ok ()) (items : List α)
    : plotter.stepsTaken step (item :: items)
      = (step plotter item).plotter.stepsTaken step items + 1 := by
  simp only [stepsTaken, succeeded]

/-- What is kept by the steps that a row takes is kept by the row, when a step that fails changes
nothing. By induction on the items.
-/
theorem each_kept {kept : Plotter κ → Prop} (taken : α → Prop)
    (halts
      : ∀ plotter item fault,
          (step plotter item).result = .error fault → (step plotter item).plotter = plotter)
    (goes
      : ∀ plotter item,
          kept plotter
          → taken item
          → (step plotter item).result = .ok ()
          → kept (step plotter item).plotter)
    {plotter : Plotter κ} {items : List α} (start : kept plotter)
    (all : ∀ item ∈ items.take (plotter.stepsTaken step items), taken item)
    : kept (plotter.each step items).plotter := by
  induction items generalizing plotter with
  | nil => exact start
  | cons item items ih =>
      rcases (step plotter item).result_cases with succeeded | ⟨fault, failed⟩
      · rw [stepsTaken_cons_of_ok succeeded, List.take_succ_cons] at all
        rw [each_cons, andThen_of_ok succeeded]
        apply ih
        · exact goes plotter item start (all item List.mem_cons_self) succeeded
        · exact fun later member => all later (List.mem_cons_of_mem item member)
      · rw [each_cons, andThen_of_error failed, halts plotter item fault failed]
        exact start

end

-----------------------------------------------------------------------------------------
-- Turns
-----------------------------------------------------------------------------------------

/-- What is done in a session: a program or a command is given, or the pen is reset. -/
inductive Turn where
  | give (input : Input)
  | reset

variable [Canvas κ]

/-- A command that is read as an instruction is not blank, and carries the instruction out. -/
theorem runCommand_of_parse {line : String} {instruction : Instruction}
    (parsed : Instruction.parse line = .ok instruction) (plotter : Plotter κ)
    : plotter.runCommand line = (plotter.perform instruction).mapError (RunError.mk 1) := by
  rw [← Instruction.parse_trim] at parsed
  have written : Text.trim line ≠ "" := by
    intro blank
    rw [blank] at parsed
    cases parsed
  rw [runCommand_eq, if_neg written, attempt, parsed]

/-- The command to wipe never fails and leaves the pen alone. -/
theorem runCommand_clear (plotter : Plotter κ)
    : plotter.runCommand "clear" = ⟨plotter.callCanvas Canvas.wipe, .ok ()⟩ := by
  have parsed : Instruction.parse "clear" = .ok .clear := by rfl
  exact runCommand_of_parse parsed plotter

def afterTurn (plotter : Plotter κ) : Turn → Plotter κ
  | .give input => plotter.feed input
  | .reset => plotter.reset

def afterTurns (plotter : Plotter κ) (turns : List Turn) : Plotter κ :=
  turns.foldl afterTurn plotter

/-- The lines that a turn carries out: those of a program before the first that fails, and a
command unless it fails.
-/
def linesDone (plotter : Plotter κ) : Turn → List String
  | .give (.program text) =>
      let lines := Text.sourceLines text
      (lines.take (plotter.reset.stepsTaken runLine lines)).map Text.SourceLine.text
  | .give (.command line) =>
      match (plotter.runCommand line).result with
      | .ok () => [line]
      | .error _ => []
  | .reset => []

/-- The lines that are carried out in a session, in order. -/
def linesDoneInAll (plotter : Plotter κ) : List Turn → List String
  | [] => []
  | turn :: turns => plotter.linesDone turn ++ (plotter.afterTurn turn).linesDoneInAll turns

theorem afterTurn_onto (recorded : Plotter Recording) (canvas : κ) (turn : Turn)
    : (recorded.onto canvas).afterTurn turn = (recorded.afterTurn turn).onto canvas := by
  cases turn with
  | give input => exact feed_onto recorded canvas input
  | reset => rfl

theorem afterTurns_onto (recorded : Plotter Recording) (canvas : κ) (turns : List Turn)
    : (recorded.onto canvas).afterTurns turns = (recorded.afterTurns turns).onto canvas := by
  induction turns generalizing recorded with
  | nil => rfl
  | cons turn turns ih =>
      simp only [afterTurns, List.foldl_cons, afterTurn_onto]
      exact ih (recorded.afterTurn turn)

-----------------------------------------------------------------------------------------
-- Invariants of sessions
-----------------------------------------------------------------------------------------

section

variable {kept : Plotter κ → Prop} {lines : List String}
    (resets : ∀ plotter, kept plotter → kept plotter.reset)
    (performs
      : ∀ plotter line instruction,
          kept plotter
          → line ∈ lines
          → Instruction.parse line = .ok instruction
          → kept (plotter.perform instruction).plotter)

include performs

/-- A line that is malformed changes nothing, and any other is carried out as its instruction. -/
theorem attempt_kept {plotter : Plotter κ} {line : String} (start : kept plotter)
    (member : line ∈ lines)
    : kept (plotter.attempt line).plotter := by
  rw [attempt]
  cases parsed : Instruction.parse line with
  | error fault => exact start
  | ok instruction => exact performs plotter line instruction start member parsed

theorem runCommand_kept {plotter : Plotter κ} {line : String} (start : kept plotter)
    (done : ∀ other ∈ plotter.linesDone (.give (.command line)), other ∈ lines)
    : kept (plotter.runCommand line).plotter := by
  rcases (plotter.runCommand line).result_cases with succeeded | ⟨error, failed⟩
  · simp only [linesDone, succeeded, List.forall_mem_singleton] at done
    rw [runCommand_eq]
    split
    next => exact start
    next =>
      have trimmed : plotter.attempt (Text.trim line) = plotter.attempt line := by
        rw [attempt, attempt, Instruction.parse_trim]
      rw [mapError_plotter, trimmed]
      exact attempt_kept performs start done
  · rw [(runCommand_of_error failed).2]
    exact start

include resets

theorem run_kept {plotter : Plotter κ} {program : String} (start : kept plotter)
    (done : ∀ line ∈ plotter.linesDone (.give (.program program)), line ∈ lines)
    : kept (plotter.run program).plotter := by
  apply each_kept fun line : Text.SourceLine => line.text ∈ lines
  · intro plotter line error failed
    obtain ⟨fault, first, -⟩ := exists_of_mapError_error failed
    rw [runLine, mapError_plotter, attempt_plotter_of_error first]
  · intro plotter line start member _
    rw [runLine, mapError_plotter]
    exact attempt_kept performs start member
  · exact resets plotter start
  · exact List.forall_mem_map.mp done

/-- What a reset keeps, and every instruction that is read from a line that is carried out, is
kept by a session. By induction on its turns.
-/
theorem afterTurns_kept {plotter : Plotter κ} {turns : List Turn} (start : kept plotter)
    (done : ∀ line ∈ plotter.linesDoneInAll turns, line ∈ lines)
    : kept (plotter.afterTurns turns) := by
  induction turns generalizing plotter with
  | nil => exact start
  | cons turn turns ih =>
      rw [linesDoneInAll] at done
      obtain ⟨here, later⟩ := List.forall_mem_append.mp done
      apply ih ?_ later
      rcases turn with (program | line) | _
      · exact run_kept resets performs start here
      · exact runCommand_kept performs start here
      · exact resets plotter start

end

-----------------------------------------------------------------------------------------
-- Turns with drops among them
-----------------------------------------------------------------------------------------

/-- What is done with a plotter on a recording: a turn is taken, or what is hidden is dropped. -/
inductive Step where
  | turn (turn : Turn)
  | dropHidden

/-- The turns among steps, as they would be without any drops. -/
def Step.turns : List Step → List Turn
  | [] => []
  | .turn taken :: steps => taken :: turns steps
  | .dropHidden :: steps => turns steps

def afterSteps (plotter : Plotter Recording) : List Step → Plotter Recording
  | [] => plotter
  | .turn turn :: steps => (plotter.afterTurn turn).afterSteps steps
  | .dropHidden :: steps => plotter.withoutHidden.afterSteps steps

/-- Two plotters have the same pen, and one holds and shows the latest figures of the other. -/
structure IsCutOf (cut whole : Plotter Recording) : Prop where
  pen : cut.pen = whole.pen
  canvas : cut.canvas.IsCutOf whole.canvas

variable {cut whole : Plotter Recording}

/-- A turn draws the same figures on both. -/
theorem IsCutOf.afterTurn (h : cut.IsCutOf whole) (turn : Turn)
    : (cut.afterTurn turn).IsCutOf (whole.afterTurn turn) := by
  obtain ⟨pen, canvas⟩ := cut
  obtain ⟨rfl, latest⟩ := h
  let blank : Plotter Recording := ⟨whole.pen, {}⟩
  have onCut : Plotter.afterTurn ⟨whole.pen, canvas⟩ turn = (blank.afterTurn turn).onto canvas :=
    blank.afterTurn_onto canvas turn
  have onWhole : whole.afterTurn turn = (blank.afterTurn turn).onto whole.canvas :=
    blank.afterTurn_onto whole.canvas turn
  rw [onCut, onWhole]
  exact ⟨rfl, latest.replay _⟩

/-- Drops among turns only cut, by induction on the steps. -/
theorem IsCutOf.afterSteps (h : cut.IsCutOf whole) (steps : List Step)
    : (cut.afterSteps steps).IsCutOf (whole.afterTurns (Step.turns steps)) := by
  induction steps generalizing cut whole with
  | nil => exact h
  | cons step steps ih =>
      cases step with
      | turn turn => exact ih (h.afterTurn turn)
      | dropHidden => exact ih ⟨h.pen, h.canvas.dropHidden⟩

end Plotter

end PenPlotter
