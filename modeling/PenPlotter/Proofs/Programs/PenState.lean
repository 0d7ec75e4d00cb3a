import PenPlotter.Editor.View
import PenPlotter.Proofs.Number.Text
import PenPlotter.Proofs.Plotting.RawLines
import PenPlotter.Proofs.Plotting.Values

/-!
The text for a pen tells all of it. The coordinates, the color and the word for filling that the
editor shows are words of the language, and three commands with these words for arguments set
every pen that a session leads to, bit for bit.
-/

namespace PenPlotter

-----------------------------------------------------------------------------------------
-- The words for a pen
-----------------------------------------------------------------------------------------

namespace Pen

theorem words_fillWord (pen : Pen) : Text.words pen.fillWord = [pen.fillWord] := by
  rw [fillWord]
  split <;> decide

theorem toggle?_fillWord (pen : Pen) : Argument.toggle? pen.fillWord = some pen.fill := by
  rw [fillWord]
  split
  next on => rw [on]; rfl
  next off => rw [Bool.eq_false_iff.mpr off]; rfl

/-- A pen with finite coordinates and a color of the table. -/
structure HasWords (pen : Pen) : Prop where
  x : pen.position.x.isFinite = true
  y : pen.position.y.isFinite = true
  color : pen.color ∈ Color.table.map Prod.snd

end Pen

-----------------------------------------------------------------------------------------
-- The commands that set a pen
-----------------------------------------------------------------------------------------

namespace Instruction

/-- An instruction is read from its keyword and a word for each of its fields, written with single
spaces between them.
-/
theorem parse_of_spelled {instruction : Instruction} {arguments : List String}
    (spelled : List.Forall₂ Field.SpelledBy instruction.fields arguments)
    (single : ∀ word ∈ arguments, Text.words word = [word])
    : parse (" ".intercalate (instruction.command.keyword :: arguments)) = .ok instruction := by
  have keyword
      : Text.words instruction.command.keyword = [instruction.command.keyword] := by
    cases instruction.command <;> decide
  have words := Text.words_intercalate_space (List.forall_mem_cons.mpr ⟨keyword, single⟩)
  rw [parse_eq_ofWords, words, ofWords_eq_ok_iff_writtenAs]
  exact ⟨_, arguments, rfl, Text.foldCase_eq_foldCase_iff.mp rfl, spelled⟩

variable {pen : Pen}

theorem parse_position (known : pen.HasWords)
    : parse
        ("moveto " ++ BinaryFloat.text pen.position.x ++ " " ++ BinaryFloat.text pen.position.y)
      = .ok (.moveTo pen.position) := by
  have x := BinaryFloat.number?_text known.x
  have y := BinaryFloat.number?_text known.y
  have spelled
      : List.Forall₂ Field.SpelledBy (fields (.moveTo pen.position))
          [BinaryFloat.text pen.position.x, BinaryFloat.text pen.position.y] :=
    .cons (Argument.number?_eq_some_iff.mp x) (.cons (Argument.number?_eq_some_iff.mp y) .nil)
  apply parse_of_spelled spelled
  simp [BinaryFloat.words_text known.x, BinaryFloat.words_text known.y]

theorem parse_color (known : pen.HasWords)
    : parse ("color " ++ pen.color.text) = .ok (.setColor pen.color.text) := by
  obtain ⟨single, name, -⟩ := Color.text_of_mem_table known.color
  have spelled
      : List.Forall₂ Field.SpelledBy (fields (.setColor pen.color.text)) [pen.color.text] :=
    .cons (Argument.colorName?_eq_some_iff.mp name) .nil
  apply parse_of_spelled spelled
  simp [single]

theorem parse_fill (pen : Pen)
    : parse ("fill " ++ pen.fillWord) = .ok (.setFill pen.fill) := by
  have spelled : List.Forall₂ Field.SpelledBy (fields (.setFill pen.fill)) [pen.fillWord] :=
    .cons (Argument.toggle?_eq_some_iff.mp pen.toggle?_fillWord) .nil
  apply parse_of_spelled spelled
  simp [pen.words_fillWord]

end Instruction

namespace Plotter

universe u v

variable {κ : Type u} [Canvas κ]

/-- Commands that set a position, a color and whether to fill, from the words for these. -/
def settingCommands (x y color fill : String) : List String :=
  ["moveto " ++ x ++ " " ++ y, "color " ++ color, "fill " ++ fill]

/-- The commands with the words for a pen set that pen, whatever it was before. -/
theorem each_settingCommands {pen : Pen} (known : pen.HasWords) (plotter : Plotter κ)
    : plotter.each runCommand
        (settingCommands (BinaryFloat.text pen.position.x) (BinaryFloat.text pen.position.y)
          pen.color.text pen.fillWord)
      = ⟨⟨pen, plotter.canvas⟩, .ok ()⟩ := by
  have named := (Color.text_of_mem_table known.color).2.2
  simp only [settingCommands, each, runCommand_of_parse (Instruction.parse_position known),
    runCommand_of_parse (Instruction.parse_color known),
    runCommand_of_parse (Instruction.parse_fill pen), perform, named]
  rfl

/-- As a program the commands do the same, since each is a line of its own. -/
theorem run_settingCommands {pen : Pen} (known : pen.HasWords) (plotter : Plotter κ)
    : plotter.run
        (Text.joinLines
          (settingCommands (BinaryFloat.text pen.position.x) (BinaryFloat.text pen.position.y)
            pen.color.text pen.fillWord))
      = ⟨⟨pen, plotter.canvas⟩, .ok ()⟩ := by
  have feed : Text.isBlank '\n' = true := by decide
  have x := Text.not_mem_of_words_eq_singleton (BinaryFloat.words_text known.x) feed
  have y := Text.not_mem_of_words_eq_singleton (BinaryFloat.words_text known.y) feed
  have color := Text.not_mem_of_words_eq_singleton (Color.text_of_mem_table known.color).1 feed
  have fill := Text.not_mem_of_words_eq_singleton pen.words_fillWord feed
  have set := each_settingCommands known plotter.reset
  rw [run_joinLines_of_ok ?_ (by rw [set]), set]
  · rfl
  · simp [settingCommands, x, y, color, fill]

/-- Every session leads to such a pen, on every canvas as on a recording. -/
theorem hasWords_afterTurns (canvas : κ) (turns : List Turn)
    : (afterTurns ⟨{}, canvas⟩ turns).pen.HasWords := by
  let recorded : Plotter Recording := ⟨{}, {}⟩
  have same : afterTurns ⟨{}, canvas⟩ turns = (recorded.afterTurns turns).onto canvas :=
    recorded.afterTurns_onto canvas turns
  have drawn := drawnFrom_afterTurns turns
  rw [same]
  constructor
  case x => exact drawn.isFinite _ (List.mem_append_left _ List.mem_cons_self)
  case y =>
    exact drawn.isFinite _ (List.mem_append_left _ (List.mem_cons_of_mem _ List.mem_cons_self))
  case color => exact drawn.color

variable {δ : Type v} [Canvas δ]

/-- The text for the pen tells all of it. After any programs, commands and resets, the editor's text
is made of the two coordinates, the color and the word for filling. With these for arguments, three
commands, one to a line, succeed on every plotter, draw nothing, and set just that pen, bit for bit.
-/
theorem pen_is_set_by_its_text (canvas : κ) (turns : List Turn) (plotter : Plotter δ)
    : let pen := (afterTurns ⟨{}, canvas⟩ turns).pen
      let x := BinaryFloat.text pen.position.x
      let y := BinaryFloat.text pen.position.y
      let color := pen.color.text
      let fill := pen.fillWord
      Editor.penText pen
        = "cursor (" ++ x ++ ", " ++ y ++ ")  pen " ++ color ++ "  fill " ++ fill
      ∧ plotter.run (Text.joinLines (settingCommands x y color fill))
        = ⟨⟨pen, plotter.canvas⟩, .ok ()⟩ := by
  intro pen x y color fill
  constructor
  · rw [← String.toList_inj]
    simp [Editor.penText, Point.text, pen, x, y, color, fill]
  · exact run_settingCommands (hasWords_afterTurns canvas turns) plotter

/-- Zero keeps its sign, and a color with two names is shown by the first. -/
example
    : Editor.penText ⟨⟨-0, 0.1⟩, ⟨128, 128, 128⟩, true⟩
      = "cursor (-0, 0.1)  pen gray  fill on" := by
  decide +kernel

end Plotter

end PenPlotter
