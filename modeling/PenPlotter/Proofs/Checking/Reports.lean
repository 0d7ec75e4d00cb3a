import PenPlotter.Proofs.Checking.Agreement
import PenPlotter.Proofs.Checking.Messages
import PenPlotter.Proofs.Reading.Faults
import PenPlotter.Proofs.Text.Scanning

/-!
The text of a report. What a message quotes of a program is a word, and no word reaches over the end
of a line, so a message stays on its own line. A report is therefore read line by line as its
violations, and its text tells all that it says.
-/

namespace PenPlotter

open Text (OnOneLine)

-----------------------------------------------------------------------------------------
-- Quoted words
-----------------------------------------------------------------------------------------

/-- The word of a line that a fault quotes. -/
def FormFault.quoted? : FormFault → Option String
  | .unknownCommand word | .badArgument _ _ word => some word
  | .wrongCount _ _ _ | .emptyLine => none

/-- A fault quotes a word of the line that was read, by cases on what is wrong with it. -/
theorem Instruction.mem_words_of_quoted {line : String} {fault : FormFault}
    (failed : parse line = .error fault)
    : ∀ word ∈ fault.quoted?, word ∈ Text.words line := by
  rw [parse_eq_ofWords] at failed
  have wrong := firstFault_of_error failed
  intro word quoted
  cases fault with
  | unknownCommand name =>
      obtain rfl := Option.some.inj quoted
      obtain ⟨arguments, split, -⟩ := wrong
      rw [split]
      exact List.mem_cons_self
  | badArgument command position bad =>
      obtain rfl := Option.some.inj quoted
      obtain ⟨head, arguments, split, -, -, -, refused⟩ := wrong
      rw [split]
      exact List.mem_cons_of_mem head (List.mem_of_getElem? refused.found)
  | wrongCount _ _ _ | emptyLine => cases quoted

theorem Text.IsWord.onOneLine {word : String} (written : IsWord word) : OnOneLine word := by
  constructor
  · intro member
    cases written.2 _ member
  · intro member
    cases written.2 _ member

theorem Text.onOneLine_toString (n : Nat) : OnOneLine (toString n) := by
  have digits : ∀ c ∈ (toString n).toList, c.isDigit = true := by
    intro c member
    exact Nat.isDigit_of_mem_toDigits (by decide) le_rfl (Nat.toList_repr ▸ member)
  constructor
  · intro member
    cases digits _ member
  · intro member
    cases digits _ member

theorem Command.onOneLine_keyword (command : Command) : OnOneLine command.keyword := by
  cases command <;> decide

theorem FaultCode.onOneLine_text (code : FaultCode) : OnOneLine code.text := by
  cases code <;> decide

-----------------------------------------------------------------------------------------
-- Messages on one line
-----------------------------------------------------------------------------------------

/-- A fault is told on one line when what it quotes is on one line. -/
theorem FormFault.onOneLine_message {fault : FormFault}
    (quoted : ∀ word ∈ fault.quoted?, OnOneLine word)
    : OnOneLine fault.message := by
  have backquote : OnOneLine "`" := by decide
  cases fault with
  | unknownCommand word =>
      have lead : OnOneLine "unknown command `" := by decide
      exact (lead.append (quoted word rfl)).append backquote
  | wrongCount command expected found =>
      have expects : OnOneLine "` expects " := by decide
      have got : OnOneLine " argument(s), got " := by decide
      have counts := (Text.onOneLine_toString expected).append
        (got.append (Text.onOneLine_toString found))
      rw [message_wrongCount]
      exact backquote.append (command.onOneLine_keyword.append (expects.append counts))
  | badArgument command position word =>
      have argument : OnOneLine "` argument " := by decide
      have invalid : OnOneLine " is invalid: `" := by decide
      have place := (Text.onOneLine_toString (position + 1)).append
        (invalid.append ((quoted word rfl).append backquote))
      rw [message_badArgument]
      exact backquote.append (command.onOneLine_keyword.append (argument.append place))
  | emptyLine => decide

/-- A violation of a line is told on one line. -/
theorem Violation.onOneLine_message {line : Text.SourceLine} {violation : Violation}
    (found : ofLine? line = some violation)
    : OnOneLine violation.message := by
  obtain ⟨n, fault⟩ := violation
  have failed : Instruction.parse line.text = .error fault :=
    Fault.ofLine?_eq_form.mp (RunError.ofLine?_eq_some.mp (ofLine?_eq_some.mp found)).2
  have quoted : ∀ word ∈ fault.quoted?, OnOneLine word := fun word known =>
    (Text.isWord_of_mem_words (Instruction.mem_words_of_quoted failed word known)).onOneLine
  have lead : OnOneLine "line " := by decide
  have opening : OnOneLine ": [" := by decide
  have closing : OnOneLine "] " := by decide
  have number := (lead.append (Text.onOneLine_toString n)).append opening
  exact ((number.append fault.code.onOneLine_text).append closing).append
    (FormFault.onOneLine_message quoted)

theorem Violation.head?_message (violation : Violation)
    : violation.message.toList.head? = some 'l' := by
  simp only [message, String.append_assoc]
  exact Text.head?_append rfl

-----------------------------------------------------------------------------------------
-- Reports
-----------------------------------------------------------------------------------------

namespace FormReport

variable {report : FormReport}

theorem message_of_valid (valid : report.isValid = true)
    : report.message = "syntax ok (" ++ (toString report.checked ++ " lines)") := by
  rw [message, if_pos valid, String.append_assoc]

theorem message_of_invalid (invalid : report.isValid = false)
    : report.message = Text.joinLines (report.violations.map Violation.message) := by
  rw [message, if_neg (ne_true_of_eq_false invalid), Text.joinLines]

/-- The text of a report begins otherwise when something is wrong. -/
theorem head?_message_of_invalid (invalid : report.isValid = false)
    : report.message.toList.head? = some 'l' := by
  rw [message_of_invalid invalid, Text.joinLines]
  obtain ⟨checked, violations⟩ := report
  rcases violations with _ | ⟨violation, _ | ⟨next, rest⟩⟩
  · cases invalid
  · rw [List.map_singleton, String.intercalate_singleton]
    exact violation.head?_message
  · rw [List.map_cons, List.map_cons, String.intercalate_cons_cons, String.append_assoc]
    exact Text.head?_append violation.head?_message

theorem message_ne_of_valid_of_invalid {other : FormReport} (valid : report.isValid = true)
    (invalid : other.isValid = false)
    : report.message ≠ other.message := by
  intro same
  have lead := head?_message_of_invalid invalid
  rw [← same, message_of_valid valid, Text.head?_append (c := 's') rfl] at lead
  cases lead

/-- Later violations are at later lines, since lines are numbered in order. -/
theorem violations_ordered (program : String)
    : (ofProgram program).violations.Pairwise
        fun violation next => violation.line < next.line := by
  refine List.Pairwise.filterMap Violation.ofLine? ?_ (Text.sourceLines_ordered program)
  intro line next less violation found later known
  rw [Violation.line_of_ofLine? found, Violation.line_of_ofLine? known]
  exact less

/-- The text of a report that finds something wrong has the texts of its violations for lines. -/
theorem lines_message {program : String} (invalid : (ofProgram program).isValid = false)
    : Text.lines (ofProgram program).message
      = (ofProgram program).violations.map Violation.message := by
  rw [message_of_invalid invalid]
  apply Text.lines_joinLines
  · rintro text member rfl
    obtain ⟨violation, -, empty⟩ := List.mem_map.mp member
    have lead := violation.head?_message
    rw [empty] at lead
    cases lead
  · intro text member
    obtain ⟨violation, known, rfl⟩ := List.mem_map.mp member
    obtain ⟨line, -, found⟩ := List.mem_filterMap.mp known
    exact Violation.onOneLine_message found

/-- Reports of programs have the same text when the same is wrong with both, and the same number of
lines if nothing is.
-/
theorem message_ofProgram_inj {program other : String}
    : (ofProgram program).message = (ofProgram other).message
      ↔ (ofProgram program).violations = (ofProgram other).violations
        ∧ ((ofProgram program).isValid = true
          → (ofProgram program).checked = (ofProgram other).checked) := by
  constructor
  · intro same
    cases valid : (ofProgram program).isValid with
    | true =>
        cases alike : (ofProgram other).isValid with
        | true =>
            rw [message_of_valid valid, message_of_valid alike, String.append_right_inj,
              String.append_left_inj, Text.toString_inj] at same
            have none := List.isEmpty_iff.mp valid
            have noneToo := List.isEmpty_iff.mp alike
            exact ⟨none.trans noneToo.symm, fun _ => same⟩
        | false => exact absurd same (message_ne_of_valid_of_invalid valid alike)
    | false =>
        cases alike : (ofProgram other).isValid with
        | true => exact absurd same.symm (message_ne_of_valid_of_invalid alike valid)
        | false =>
            have texts := congrArg Text.lines same
            rw [lines_message valid, lines_message alike] at texts
            have injective : Function.Injective Violation.message := fun _ _ =>
              Violation.message_inj.mp
            exact ⟨List.map_injective_iff.mpr injective texts, nofun⟩
  · rintro ⟨violations, checked⟩
    cases valid : (ofProgram program).isValid with
    | true =>
        have alike : (ofProgram other).isValid = true := by
          rw [isValid, ← violations]
          exact valid
        rw [message_of_valid valid, message_of_valid alike, checked valid]
    | false =>
        have alike : (ofProgram other).isValid = false := by
          rw [isValid, ← violations]
          exact valid
        rw [message_of_invalid valid, message_of_invalid alike, violations]

/-- A report has one line for each violation. When something is wrong with a program, the text of
its report is read line by line as the texts of the violations, in order and with increasing line
numbers, whatever words of the program they quote. Reports of two programs have the same text only
when they list the same violations, and have checked as many lines if there are none.
-/
theorem report_has_a_line_for_each_violation (program : String)
    : ((ofProgram program).isValid = false
        → Text.lines (ofProgram program).message
          = (ofProgram program).violations.map Violation.message)
      ∧ ((ofProgram program).violations.Pairwise
          fun violation next => violation.line < next.line)
      ∧ ∀ other,
          (ofProgram program).message = (ofProgram other).message
          ↔ (ofProgram program).violations = (ofProgram other).violations
            ∧ ((ofProgram program).isValid = true
              → (ofProgram program).checked = (ofProgram other).checked) :=
  ⟨lines_message, violations_ordered program, fun _ => message_ofProgram_inj⟩

/-- Words that look like the end of a message and the start of the next, between lines that are not
at fault.
-/
theorem report_has_a_line_for_each_violation_sample
    : let program := "`\u0085clear\r\nclear\n\nfill line\u00a02:\rfill [P001]"
      (ofProgram program).isValid = false
      ∧ Text.lines (ofProgram program).message
        = ["line 1: [P001] unknown command ```",
            "line 4: [P002] `fill` expects 1 argument(s), got 4"] := by
  intro program
  have invalid : (ofProgram program).isValid = false := by
    subst program
    rfl
  refine ⟨invalid, ((report_has_a_line_for_each_violation program).1 invalid).trans ?_⟩
  subst program
  rfl

end FormReport

end PenPlotter
