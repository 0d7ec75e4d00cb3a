import PenPlotter.Language.Check
import PenPlotter.Proofs.Plotting.LineFaults
import PenPlotter.Proofs.Text.Layout

/-!
Layout does not matter. Checks and runs read of each line its number and its words, so programs
with the same words line by line cannot be told apart.
-/

namespace PenPlotter

universe u

open Text (SameWords)
open Text.SourceLine (ReadAlike)

/-- Two programs cannot be told apart: checking them gives the same report, and running them comes
to the same on an empty recording and on every other plotter.
-/
structure Interchangeable (left right : String) : Prop where
  report : FormReport.ofProgram left = FormReport.ofProgram right
  record : Plotter.record left = Plotter.record right
  run : ∀ {κ : Type u} [Canvas κ] (plotter : Plotter κ), plotter.run left = plotter.run right

-----------------------------------------------------------------------------------------
-- Lines that are read alike
-----------------------------------------------------------------------------------------

section

variable {line other : Text.SourceLine} {lines others : List Text.SourceLine}

theorem Violation.ofLine?_eq_of_readAlike (alike : ReadAlike line other)
    : ofLine? line = ofLine? other := by
  rw [ofLine?, ofLine?, Instruction.parse_eq_ofWords, Instruction.parse_eq_ofWords, alike.words,
    alike.number]

theorem violations_eq_of_readAlike (alike : List.Forall₂ ReadAlike lines others)
    : lines.filterMap Violation.ofLine? = others.filterMap Violation.ofLine? := by
  induction alike with
  | nil => rfl
  | cons here _ ih =>
      rw [List.filterMap_cons, List.filterMap_cons, Violation.ofLine?_eq_of_readAlike here, ih]

namespace Plotter

variable {κ : Type u} [Canvas κ] (plotter : Plotter κ)

theorem runLine_eq_of_readAlike (alike : ReadAlike line other)
    : plotter.runLine line = plotter.runLine other := by
  rw [runLine, runLine, attempt, attempt, Instruction.parse_eq_ofWords,
    Instruction.parse_eq_ofWords, alike.words, alike.number]

theorem runLines_eq_of_readAlike (alike : List.Forall₂ ReadAlike lines others)
    : plotter.runLines lines = plotter.runLines others := by
  have same : plotter.runLines lines
      = (plotter.runLines others).mapError fun error => error := by
    apply each_eq_mapError ?_ alike
    intro plotter line other here
    rw [Outcome.mapError_id]
    exact plotter.runLine_eq_of_readAlike here
  rw [same, Outcome.mapError_id]

end Plotter

end

-----------------------------------------------------------------------------------------
-- Programs with the same words
-----------------------------------------------------------------------------------------

theorem Plotter.run_eq_of_sameWords {κ : Type u} [Canvas κ] {left right : String}
    (same : SameWords left right) (plotter : Plotter κ)
    : plotter.run left = plotter.run right :=
  plotter.reset.runLines_eq_of_readAlike same.sourceLines

theorem Text.SameWords.interchangeable {left right : String} (same : SameWords left right)
    : Interchangeable.{u} left right where
  report := by
    have alike := same.sourceLines
    rw [FormReport.ofProgram, FormReport.ofProgram, alike.length_eq,
      violations_eq_of_readAlike alike]
  record := Plotter.run_eq_of_sameWords same _
  run := Plotter.run_eq_of_sameWords same

theorem Text.Relaid.interchangeable {left right indent : List Char} (relaid : Relaid left right)
    (spaced : IsGap indent)
    : Interchangeable.{u} (String.ofList left) (String.ofList (indent ++ right)) :=
  (relaid.sameWords spaced).interchangeable

/-- Layout does not matter. Programs with the same words line by line cannot be told apart. So it
makes no difference how line feeds are written, how lines are indented, which blanks stand within
the lines and which stand at the end.
-/
theorem layout_does_not_matter
    : (∀ left right, SameWords left right → Interchangeable.{u} left right)
      ∧ (∀ text, Interchangeable.{u} text (Text.withFeed "\r\n" text))
      ∧ (∀ text indent : String,
          Text.IsGap indent.toList
          → Interchangeable.{u} text (indent ++ Text.withFeed ("\n" ++ indent) text))
      ∧ (∀ text other : String,
          List.Forall₂ Text.SameSpacing text.toList other.toList
          → Interchangeable.{u} text other)
      ∧ ∀ text blanks : String,
          (∀ c ∈ blanks.toList, Text.isBlank c = true)
          → Interchangeable.{u} text (text ++ blanks) := by
  refine ⟨fun left right same => same.interchangeable, ?_, ?_, ?_, ?_⟩
  · intro text
    have leading : Text.IsGap ['\r'] := by decide
    have relaid := Text.Relaid.flatMap leading .nil text.toList
    simpa [Text.withFeed] using relaid.interchangeable .nil
  · intro text indent spaced
    have relaid := Text.Relaid.flatMap .nil spaced text.toList
    simpa [Text.withFeed] using relaid.interchangeable spaced
  · intro text other spacing
    simpa using (Text.Relaid.of_forall₂ spacing).interchangeable .nil
  · intro text blanks blank
    simpa using (Text.Relaid.append blank text.toList).interchangeable .nil

/-- Two texts with other blanks in each line and more blank lines at the end, and the changes of
layout that blanks can be chosen for.
-/
theorem layout_does_not_matter_samples
    : let text := "color red\n\nbogus"
      let other := "\tcolor\u00a0red \r\n\x0c\nbogus\n\n"
      (SameWords text other ∧ Interchangeable.{0} text other)
      ∧ (Text.IsGap "\t ".toList
        ∧ Interchangeable.{0} text ("\t " ++ Text.withFeed ("\n" ++ "\t ") text))
      ∧ (List.Forall₂ Text.SameSpacing text.toList "color\rred\n\nbogus".toList
        ∧ Interchangeable.{0} text "color\rred\n\nbogus")
      ∧ (∀ c ∈ "\n \n".toList, Text.isBlank c = true)
      ∧ Interchangeable.{0} text (text ++ "\n \n") := by
  intro text other
  have same : SameWords text other := by
    subst text other
    decide +kernel
  have gap : Text.IsGap "\t ".toList := by decide
  have spacing : List.Forall₂ Text.SameSpacing text.toList "color\rred\n\nbogus".toList := by
    subst text
    decide +kernel
  have blank : ∀ c ∈ "\n \n".toList, Text.isBlank c = true :=
    List.all_eq_true.mp (by decide)
  obtain ⟨words, -, indented, spaced, ended⟩ := layout_does_not_matter.{0}
  exact ⟨⟨same, words text other same⟩, ⟨gap, indented text _ gap⟩,
    ⟨spacing, spaced text _ spacing⟩, blank, ended text _ blank⟩

end PenPlotter
