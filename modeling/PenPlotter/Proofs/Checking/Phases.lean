import PenPlotter.Proofs.Checking.Agreement
import PenPlotter.Proofs.Checking.Readers
import PenPlotter.Proofs.Reading.Faults
import PenPlotter.Proofs.Text.Scanning

/-!
Faults keep to the phase they belong to. A line is read only when it has a word, so the fault of a
line without words is never met. A fault of form has the code of one, and the only other is a color
whose name was read as a word of letters and is not in the table.
-/

namespace PenPlotter

universe u

-----------------------------------------------------------------------------------------
-- Names of colors
-----------------------------------------------------------------------------------------

theorem Text.isLower_iff {c : Char} : c.isLower = true ↔ 97 ≤ c.toNat ∧ c.toNat ≤ 122 := by
  simp only [Char.isLower, Bool.and_eq_true, decide_eq_true_eq, ge_iff_le, UInt32.le_iff_toNat_le]
  rfl

/-- The small letter of a letter is one of the twenty-six, by the ranges of both cases. -/
theorem Text.isLower_toLower {c : Char} (letter : c.isAlpha = true)
    : c.toLower.isLower = true := by
  simp only [Char.isAlpha, Bool.or_eq_true, isUpper_iff, isLower_iff] at letter
  rw [isLower_iff, toNat_toLower]
  split
  next capital =>
    rw [isUpper_iff] at capital
    omega
  next small =>
    rw [isUpper_iff] at small
    omega

/-- A color name is made of the small letters of its word. -/
theorem Argument.name_of_spells {word name : String} (spells : Spells .colorName word name)
    (written : word ≠ "")
    : name ≠ "" ∧ ∀ c ∈ name.toList, c.isLower = true := by
  obtain ⟨letters, folded⟩ := spells
  obtain rfl := Text.foldCase_eq_iff.mpr folded
  rw [Text.toList_foldCase, ne_eq, ← String.toList_inj, Text.toList_foldCase]
  refine ⟨by simpa using written, ?_⟩
  rw [List.forall_mem_map]
  intro c member
  exact Text.isLower_toLower (letters c member)

-----------------------------------------------------------------------------------------
-- Faults of lines that have words
-----------------------------------------------------------------------------------------

theorem FormFault.code_of_ne_emptyLine {fault : FormFault} (some : fault ≠ .emptyLine)
    : fault.code = .P001 ∨ fault.code = .P002 ∨ fault.code = .P003 := by
  cases fault with
  | unknownCommand word => exact Or.inl rfl
  | wrongCount command expected found => exact Or.inr (Or.inl rfl)
  | badArgument command position word => exact Or.inr (Or.inr rfl)
  | emptyLine => exact absurd rfl some

/-- A fault is of form, with a code of form, or it is a color with a name of small letters that
names none. It is never that of an empty line.
-/
structure Fault.KeepsPhase (fault : Fault) : Prop where
  notEmpty : fault ≠ .form .emptyLine ∧ fault.code ≠ .P004
  phase
    : (∃ form, fault.form? = some form ∧ fault.code.isOfForm = true)
      ∨ ∃ name,
          fault = .unknownColor name
          ∧ fault.code = .R001
          ∧ name ≠ ""
          ∧ (∀ c ∈ name.toList, c.isLower = true)
          ∧ Color.ofName? name = none

variable {text : String}

/-- Only a text without words is empty to the reader. -/
theorem Instruction.ne_emptyLine_of_words (worded : Text.words text ≠ []) {fault : FormFault}
    (failed : parse text = .error fault)
    : fault ≠ .emptyLine := by
  rintro rfl
  rw [parse_eq_ofWords] at failed
  exact worded (firstFault_of_error failed)

/-- A color name is read from a word of the text. -/
theorem Instruction.name_of_parse {name : String} (parsed : parse text = .ok (.setColor name))
    : name ≠ "" ∧ ∀ c ∈ name.toList, c.isLower = true := by
  rw [parse_eq_ofWords, ofWords_eq_ok_iff_writtenAs] at parsed
  obtain ⟨head, arguments, split, -, spelled⟩ := parsed
  obtain ⟨word, _, spells, -, rfl⟩ := List.forall₂_cons_left_iff.mp spelled
  have member : word ∈ Text.words text := by simp [split]
  exact Argument.name_of_spells spells (Text.isWord_of_mem_words member).1

/-- By cases on whether the line is malformed. -/
theorem Fault.keepsPhase_of_ofLine? (worded : Text.words text ≠ []) {fault : Fault}
    (fails : ofLine? text = some fault)
    : fault.KeepsPhase := by
  cases fault with
  | form fault =>
      have some := Instruction.ne_emptyLine_of_words worded (ofLine?_eq_form.mp fails)
      have codes := FormFault.code_of_ne_emptyLine some
      rw [← code] at codes
      refine ⟨⟨?_, ?_⟩, Or.inl ⟨fault, rfl, ?_⟩⟩
      · exact fun same => some (Fault.form.inj same)
      · rcases codes with same | same | same <;> rw [same] <;> decide
      · rcases codes with same | same | same <;> rw [same] <;> rfl
  | unknownColor name =>
      obtain ⟨parsed, unknown⟩ := ofLine?_eq_unknownColor.mp fails
      obtain ⟨some, small⟩ := Instruction.name_of_parse parsed
      refine ⟨⟨by simp, by simp [code]⟩, Or.inr ⟨name, rfl, rfl, some, small, unknown⟩⟩

-----------------------------------------------------------------------------------------
-- Runs, commands and checks
-----------------------------------------------------------------------------------------

namespace Plotter

variable {κ : Type u} [Canvas κ]

theorem keepsPhase_run {plotter : Plotter κ} {error : RunError}
    (failed : (plotter.run text).result = .error error)
    : error.fault.KeepsPhase := by
  rw [run_result, Outcome.resultOf_eq_error] at failed
  obtain ⟨line, member, fails⟩ := List.exists_of_findSome?_eq_some failed
  obtain ⟨-, fault⟩ := RunError.ofLine?_eq_some.mp fails
  exact Fault.keepsPhase_of_ofLine? (Text.words_ne_nil_of_mem_sourceLines member) fault

theorem runCommand_of_no_words (plotter : Plotter κ) (blank : Text.words text = [])
    : plotter.runCommand text = ⟨plotter, .ok ()⟩ := by
  rw [runCommand_eq, if_pos (Text.trim_eq_empty_iff.mpr blank)]

theorem keepsPhase_runCommand {plotter : Plotter κ} {error : RunError}
    (failed : (plotter.runCommand text).result = .error error)
    : error.fault.KeepsPhase := by
  by_cases blank : Text.words text = []
  · rw [runCommand_of_no_words plotter blank] at failed
    cases failed
  · rw [runCommand_eq, if_neg (mt Text.trim_eq_empty_iff.mp blank)] at failed
    obtain ⟨fault, first, rfl⟩ := Outcome.exists_of_mapError_error failed
    rw [attempt_result, Outcome.resultOf_eq_error] at first
    exact Fault.keepsPhase_of_ofLine? (by rwa [Text.words_trim]) first

end Plotter

theorem FormReport.ne_emptyLine_of_mem_violations {violation : Violation}
    (listed : violation ∈ (ofProgram text).violations)
    : violation.fault ≠ .emptyLine := by
  obtain ⟨line, member, found⟩ := List.mem_filterMap.mp listed
  obtain ⟨n, fault⟩ := violation
  obtain ⟨-, fails⟩ := RunError.ofLine?_eq_some.mp (Violation.ofLine?_eq_some.mp found)
  exact Instruction.ne_emptyLine_of_words (Text.words_ne_nil_of_mem_sourceLines member)
    (Fault.ofLine?_eq_form.mp fails)

/-- Blank input is never read, and faults keep their phase. Whatever a reader keeps note of, a check
hands it exactly the lines that have a word, in order, a run those of them up to the first that
fails, and a command what is left of it if it has a word. A command without words succeeds and
changes nothing. No failure and no violation is that of an empty line. A violation has one of the
first three codes, and a failure is of form or is a color of small letters that does not exist.
-/
theorem Plotter.blank_input_is_never_read {κ : Type u} [Canvas κ] (plotter : Plotter κ)
    (text : String)
    : (∀ {σ : Type} (reader : Reader σ) (state : σ),
        FormReport.ofProgramBy reader state text
          = (FormReport.ofProgram text,
            reader.afterAll state ((Text.wordedLines text).map Text.SourceLine.text))
        ∧ plotter.runBy reader state text
          = (plotter.run text,
            reader.afterAll state
              ((plotter.reset.linesRun (Text.wordedLines text)).map Text.SourceLine.text))
        ∧ plotter.runCommandBy reader state text
          = (plotter.runCommand text,
            reader.afterAll state (if Text.words text = [] then [] else [Text.trim text])))
      ∧ (Text.words text = [] → plotter.runCommand text = ⟨plotter, .ok ()⟩)
      ∧ (∀ violation ∈ (FormReport.ofProgram text).violations,
          violation.fault ≠ .emptyLine
          ∧ (violation.fault.code = .P001
            ∨ violation.fault.code = .P002
            ∨ violation.fault.code = .P003))
      ∧ ∀ error,
          (plotter.run text).result = .error error
            ∨ (plotter.runCommand text).result = .error error
          → error.fault.KeepsPhase := by
  refine ⟨?_, plotter.runCommand_of_no_words, ?_, ?_⟩
  · intro σ reader state
    rw [← Text.sourceLines_eq_wordedLines]
    exact ⟨FormReport.ofProgramBy_eq reader state text, plotter.runBy_eq reader state text,
      plotter.runCommandBy_eq reader state text⟩
  · intro violation listed
    have some := FormReport.ne_emptyLine_of_mem_violations listed
    exact ⟨some, FormFault.code_of_ne_emptyLine some⟩
  · rintro error (failed | failed)
    · exact keepsPhase_run failed
    · exact keepsPhase_runCommand failed

/-- A blank line before a color that does not exist and a malformed line, which a check reads and a
run does not; and a command of blanks alone.
-/
theorem Plotter.blank_input_is_never_read_samples
    : let fresh : Plotter Recording := ⟨{}, {}⟩
      let program := " \u2028\n color\tPUCE\nclear x"
      ((FormReport.ofProgramBy Reader.noting [] program).2 = ["color\tPUCE", "clear x"]
        ∧ (fresh.runBy Reader.noting [] program).2 = ["color\tPUCE"])
      ∧ (Text.words "\u00a0\t" = [] ∧ fresh.runCommand "\u00a0\t" = ⟨fresh, .ok ()⟩)
      ∧ (⟨3, .wrongCount .clear 0 1⟩ ∈ (FormReport.ofProgram program).violations
        ∧ FormFault.wrongCount .clear 0 1 ≠ .emptyLine)
      ∧ (fresh.run program).result = .error ⟨2, .unknownColor "puce"⟩
      ∧ Fault.KeepsPhase (.unknownColor "puce") := by
  intro fresh program
  have blank : Text.words "\u00a0\t" = [] := by decide +kernel
  have listed : ⟨3, .wrongCount .clear 0 1⟩ ∈ (FormReport.ofProgram program).violations := by
    subst program
    decide +kernel
  have failed : (fresh.run program).result = .error ⟨2, .unknownColor "puce"⟩ := by
    subst fresh program
    rfl
  obtain ⟨readers, -, violations, errors⟩ := fresh.blank_input_is_never_read program
  obtain ⟨checked, run, -⟩ := readers Reader.noting []
  refine ⟨⟨?_, ?_⟩, ⟨blank, (fresh.blank_input_is_never_read _).2.1 blank⟩,
    ⟨listed, (violations _ listed).1⟩, failed, errors _ (Or.inl failed)⟩
  · rw [checked]
    subst program
    decide +kernel
  · rw [run]
    subst program fresh
    decide +kernel

end PenPlotter
