import PenPlotter.Language.Check
import PenPlotter.Proofs.Plotting.Steps
import PenPlotter.Proofs.Text.SourceLines
import PenPlotter.Proofs.Text.Words

/-!
Which texts are read. Running and checking are told here with a reader for their texts in place of
reading alone. A reader reads as ever and keeps a state besides, so what becomes of the state of any
reader tells all the texts that it was handed, and in which order.
-/

namespace PenPlotter

universe u

open Text (SourceLine)

/-- A way to read texts that keeps a state as it goes. -/
structure Reader (σ : Type) where
  read : σ → String → Except FormFault Instruction × σ
  parses : ∀ state text, (read state text).1 = Instruction.parse text

variable {σ : Type}

namespace Reader

/-- The state after texts were handed over one by one. -/
def afterAll (reader : Reader σ) (state : σ) (texts : List String) : σ :=
  texts.foldl (fun state text => (reader.read state text).2) state

/-- The reader that writes down what it is handed. -/
def noting : Reader (List String) where
  read noted text := (Instruction.parse text, noted ++ [text])
  parses _ _ := by dsimp only

theorem read_eq (reader : Reader σ) (state : σ) (text : String)
    : reader.read state text = (Instruction.parse text, (reader.read state text).2) := by
  rw [← reader.parses state text]

end Reader

-----------------------------------------------------------------------------------------
-- Checking with a reader
-----------------------------------------------------------------------------------------

namespace FormReport

/-- The violations of lines, with a reader for their texts. -/
def violationsBy (reader : Reader σ) (state : σ) : List SourceLine → List Violation × σ
  | [] => ([], state)
  | line :: lines =>
      match reader.read state line.text with
      | (.ok _, state) => violationsBy reader state lines
      | (.error fault, state) =>
          let (violations, state) := violationsBy reader state lines
          (⟨line.number, fault⟩ :: violations, state)

def ofProgramBy (reader : Reader σ) (state : σ) (program : String) : FormReport × σ :=
  let lines := Text.sourceLines program
  let (violations, state) := violationsBy reader state lines
  (⟨lines.length, violations⟩, state)

/-- Every line is read, by induction on the lines. -/
theorem violationsBy_eq (reader : Reader σ) (state : σ) (lines : List SourceLine)
    : violationsBy reader state lines
      = (lines.filterMap Violation.ofLine?,
        reader.afterAll state (lines.map SourceLine.text)) := by
  induction lines generalizing state with
  | nil => rfl
  | cons line lines ih =>
      rw [violationsBy, reader.read_eq, List.filterMap_cons, Violation.ofLine?]
      cases Instruction.parse line.text with
      | ok instruction => exact ih _
      | error fault =>
          dsimp only
          rw [ih]
          rfl

theorem ofProgramBy_eq (reader : Reader σ) (state : σ) (program : String)
    : ofProgramBy reader state program
      = (ofProgram program,
        reader.afterAll state ((Text.sourceLines program).map SourceLine.text)) := by
  rw [ofProgramBy, violationsBy_eq]
  rfl

end FormReport

-----------------------------------------------------------------------------------------
-- Running with a reader
-----------------------------------------------------------------------------------------

namespace Plotter

open Outcome

variable {κ : Type u} [Canvas κ]

def attemptBy (reader : Reader σ) (state : σ) (plotter : Plotter κ) (line : String)
    : Outcome κ Fault × σ :=
  match reader.read state line with
  | (.error fault, state) => (⟨plotter, .error (.form fault)⟩, state)
  | (.ok instruction, state) => (plotter.perform instruction, state)

def runLineBy (reader : Reader σ) (state : σ) (plotter : Plotter κ) (line : SourceLine)
    : Outcome κ RunError × σ :=
  let (outcome, state) := plotter.attemptBy reader state line.text
  (outcome.mapError (RunError.mk line.number), state)

/-- Runs lines up to the first that fails, with a reader for their texts. -/
def runLinesBy (reader : Reader σ) (state : σ) (plotter : Plotter κ)
    : List SourceLine → Outcome κ RunError × σ
  | [] => (⟨plotter, .ok ()⟩, state)
  | line :: lines =>
      let (outcome, state) := plotter.runLineBy reader state line
      match outcome.result with
      | .ok () => runLinesBy reader state outcome.plotter lines
      | .error _ => (outcome, state)

def runBy (reader : Reader σ) (state : σ) (plotter : Plotter κ) (program : String)
    : Outcome κ RunError × σ :=
  plotter.reset.runLinesBy reader state (Text.sourceLines program)

def runCommandBy (reader : Reader σ) (state : σ) (plotter : Plotter κ) (line : String)
    : Outcome κ RunError × σ :=
  let text := Text.trim line
  if text = "" then (⟨plotter, .ok ()⟩, state) else plotter.runLineBy reader state ⟨1, text⟩

theorem runLineBy_eq (reader : Reader σ) (state : σ) (plotter : Plotter κ) (line : SourceLine)
    : plotter.runLineBy reader state line
      = (plotter.runLine line, (reader.read state line.text).2) := by
  rw [runLineBy, attemptBy, reader.read_eq, runLine, attempt]
  cases Instruction.parse line.text <;> rfl

/-- The lines of a row that are run: all up to the first that fails, and that one. -/
def linesRun (plotter : Plotter κ) (lines : List SourceLine) : List SourceLine :=
  lines.take (plotter.stepsTaken runLine lines + 1)

/-- Lines are read as they are run, by induction on them. -/
theorem runLinesBy_eq (reader : Reader σ) (state : σ) (plotter : Plotter κ)
    (lines : List SourceLine)
    : plotter.runLinesBy reader state lines
      = (plotter.runLines lines,
        reader.afterAll state ((plotter.linesRun lines).map SourceLine.text)) := by
  induction lines generalizing state plotter with
  | nil => rfl
  | cons line lines ih =>
      rw [runLinesBy, runLineBy_eq, linesRun, stepsTaken, List.take_succ_cons, runLines, each_cons]
      dsimp only
      rcases (plotter.runLine line).result_cases with succeeded | ⟨fault, failed⟩
      · rw [andThen_of_ok succeeded, succeeded]
        exact ih _ _
      · rw [andThen_of_error failed, failed]
        rfl

theorem runBy_eq (reader : Reader σ) (state : σ) (plotter : Plotter κ) (program : String)
    : plotter.runBy reader state program
      = (plotter.run program,
        reader.afterAll state
          ((plotter.reset.linesRun (Text.sourceLines program)).map SourceLine.text)) :=
  runLinesBy_eq reader state plotter.reset (Text.sourceLines program)

end Plotter

-----------------------------------------------------------------------------------------
-- Lines with words
-----------------------------------------------------------------------------------------

namespace Text

/-- What is left of a text is nothing exactly when it has no words. -/
theorem trim_eq_empty_iff {text : String} : trim text = "" ↔ words text = [] := by
  rw [trim, words, List.map_eq_nil_iff, ← trimChars_eq_nil_iff]
  simp

/-- Of all lines of a text those that have a word, trimmed and numbered from one. -/
def wordedLines (text : String) : List SourceLine :=
  ((rawLines text).zipIdx 1).filterMap fun line =>
    if words line.1 = [] then none else some ⟨line.2, trim line.1⟩

/-- The lines of a program are those that have a word. -/
theorem sourceLines_eq_wordedLines (text : String) : sourceLines text = wordedLines text := by
  rw [sourceLines_eq_numberLines, numberLines_eq_filterMap, wordedLines, rawLines, List.zipIdx_map,
    List.filterMap_map]
  congr 1
  funext piece
  obtain ⟨line, n⟩ := piece
  have blank : trimChars line = [] ↔ words (String.ofList line) = [] := by
    rw [← trim_eq_empty_iff, trim_ofList]
    simp
  change _
    = if words (String.ofList line) = [] then none
      else some (SourceLine.mk n (trim (String.ofList line)))
  simp only [← blank, trim_ofList]

theorem words_ne_nil_of_mem_sourceLines {text : String} {line : SourceLine}
    (member : line ∈ sourceLines text)
    : words line.text ≠ [] := by
  rw [sourceLines_eq_wordedLines, wordedLines] at member
  obtain ⟨raw, -, kept⟩ := List.mem_filterMap.mp member
  split at kept
  next => cases kept
  next some =>
    obtain rfl := Option.some.inj kept
    rwa [words_trim]

end Text

/-- A command is read exactly when it has a word. -/
theorem Plotter.runCommandBy_eq {κ : Type u} [Canvas κ] (reader : Reader σ) (state : σ)
    (plotter : Plotter κ) (line : String)
    : plotter.runCommandBy reader state line
      = (plotter.runCommand line,
        reader.afterAll state (if Text.words line = [] then [] else [Text.trim line])) := by
  rw [runCommandBy, runCommand]
  by_cases blank : Text.trim line = ""
  · rw [if_pos blank, if_pos blank, if_pos (Text.trim_eq_empty_iff.mp blank)]
    rfl
  · rw [if_neg blank, if_neg blank, if_neg (mt Text.trim_eq_empty_iff.mpr blank), runLineBy_eq]
    rfl

end PenPlotter
