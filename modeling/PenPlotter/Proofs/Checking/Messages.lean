import PenPlotter.Language.Check
import PenPlotter.Proofs.Reading.Spelling
import PenPlotter.Proofs.Text.Parts

/-!
The texts of faults can be taken apart again. Each part of a text ends where a character first
occurs that the part cannot hold: a keyword at a backquote, a number at whatever is no digit. A word
that is quoted may hold anything, and stands last. So no two faults have the same text.
-/

namespace PenPlotter

-----------------------------------------------------------------------------------------
-- Numbers, keywords and codes
-----------------------------------------------------------------------------------------

namespace Text

theorem toString_inj {m n : Nat} : toString m = toString n ↔ m = n :=
  ⟨Nat.repr_injective, congrArg toString⟩

/-- A number ends before what is no digit. -/
theorem toString_append_inj {c : Char} (letter : c.isDigit = false) {m n : Nat}
    {right more : String} (starts : right.toList.head? = some c)
    (startsToo : more.toList.head? = some c)
    : toString m ++ right = toString n ++ more ↔ m = n ∧ right = more := by
  have absent (k : Nat) : c ∉ (toString k).toList := by
    intro member
    have digit := Nat.isDigit_of_mem_toDigits (by decide) le_rfl (Nat.toList_repr ▸ member)
    rw [letter] at digit
    cases digit
  rw [append_inj_of_absent (absent m) starts (absent n) startsToo]
  exact and_congr_left' toString_inj

end Text

theorem Command.keyword_injective : Function.Injective keyword := by
  intro command other same
  have found := ofKeyword?_keyword command
  rw [same, ofKeyword?_keyword] at found
  exact (Option.some.inj found).symm

theorem Command.backquote_not_mem_keyword (command : Command)
    : '`' ∉ command.keyword.toList := by
  cases command <;> decide

/-- A keyword ends before a backquote. -/
theorem Command.keyword_append_inj {command other : Command} {right more : String}
    (starts : right.toList.head? = some '`') (startsToo : more.toList.head? = some '`')
    : command.keyword ++ right = other.keyword ++ more ↔ command = other ∧ right = more := by
  rw [Text.append_inj_of_absent command.backquote_not_mem_keyword starts
    other.backquote_not_mem_keyword startsToo, keyword_injective.eq_iff]

theorem FaultCode.bracket_not_mem_text (code : FaultCode) : ']' ∉ code.text.toList := by
  cases code <;> decide

-----------------------------------------------------------------------------------------
-- Texts of faults
-----------------------------------------------------------------------------------------

namespace FormFault

theorem message_wrongCount (command : Command) (expected found : Nat)
    : (wrongCount command expected found).message
      = "`" ++ (command.keyword
        ++ ("` expects " ++ (toString expected ++ (" argument(s), got " ++ toString found)))) := by
  change "`" ++ command.keyword ++ "` expects " ++ toString expected ++ " argument(s), got "
    ++ toString found = _
  simp only [String.append_assoc]

theorem message_badArgument (command : Command) (position : Nat) (word : String)
    : (badArgument command position word).message
      = "`" ++ (command.keyword
        ++ ("` argument "
          ++ (toString (position + 1) ++ (" is invalid: `" ++ (word ++ "`"))))) := by
  change "`" ++ command.keyword ++ "` argument " ++ toString (position + 1) ++ " is invalid: `"
    ++ word ++ "`" = _
  simp only [String.append_assoc]

/-- The first character of a text, which tells all kinds of faults apart but for two. -/
def lead : FormFault → Char
  | .unknownCommand _ => 'u'
  | .wrongCount .. | .badArgument .. => '`'
  | .emptyLine => 'e'

theorem head?_message (fault : FormFault) : fault.message.toList.head? = some fault.lead := by
  cases fault with
  | unknownCommand word =>
      change ("unknown command `" ++ word ++ "`").toList.head? = _
      rw [String.append_assoc]
      exact Text.head?_append rfl
  | wrongCount command expected found =>
      rw [message_wrongCount]
      exact Text.head?_append rfl
  | badArgument command position word =>
      rw [message_badArgument]
      exact Text.head?_append rfl
  | emptyLine => rfl

theorem message_unknownCommand_inj {word other : String}
    : (unknownCommand word).message = (unknownCommand other).message ↔ word = other := by
  change "unknown command `" ++ word ++ "`" = "unknown command `" ++ other ++ "`" ↔ _
  rw [String.append_left_inj, String.append_right_inj]

theorem message_wrongCount_inj {command other : Command} {expected found wanted given : Nat}
    : (wrongCount command expected found).message = (wrongCount other wanted given).message
      ↔ command = other ∧ expected = wanted ∧ found = given := by
  rw [message_wrongCount, message_wrongCount, String.append_right_inj,
    Command.keyword_append_inj (Text.head?_append rfl) (Text.head?_append rfl),
    String.append_right_inj,
    Text.toString_append_inj rfl (Text.head?_append (c := ' ') rfl) (Text.head?_append rfl),
    String.append_right_inj]
  exact and_congr_right' (and_congr_right' Text.toString_inj)

theorem message_badArgument_inj {command other : Command} {position place : Nat}
    {word quoted : String}
    : (badArgument command position word).message = (badArgument other place quoted).message
      ↔ command = other ∧ position = place ∧ word = quoted := by
  rw [message_badArgument, message_badArgument, String.append_right_inj,
    Command.keyword_append_inj (Text.head?_append rfl) (Text.head?_append rfl),
    String.append_right_inj,
    Text.toString_append_inj rfl (Text.head?_append (c := ' ') rfl) (Text.head?_append rfl),
    String.append_right_inj, String.append_left_inj, Nat.succ_inj]

/-- After the keyword, a wrong number of arguments is told in other words than a bad one. -/
theorem message_wrongCount_ne_badArgument {command other : Command}
    {expected found position : Nat} {word : String}
    : (wrongCount command expected found).message ≠ (badArgument other position word).message := by
  rw [message_wrongCount, message_badArgument, ne_eq, String.append_right_inj,
    Command.keyword_append_inj (Text.head?_append rfl) (Text.head?_append rfl)]
  rintro ⟨-, same⟩
  have third := congrArg (fun text => text.toList[2]?) same
  simp only [String.toList_append] at third
  change some 'e' = some 'a' at third
  cases third

/-- Texts of malformed lines are equal only for the same fault, by cases on both. -/
theorem message_inj {fault other : FormFault} : fault.message = other.message ↔ fault = other := by
  refine ⟨fun same => ?_, congrArg message⟩
  have lead : fault.lead = other.lead := by
    rw [← Option.some_inj, ← head?_message, ← head?_message, same]
  cases fault with
  | unknownCommand word =>
      cases other with
      | unknownCommand _ => rw [message_unknownCommand_inj.mp same]
      | wrongCount _ _ _ | badArgument _ _ _ | emptyLine => cases lead
  | wrongCount command expected found =>
      cases other with
      | wrongCount _ _ _ =>
          obtain ⟨rfl, rfl, rfl⟩ := message_wrongCount_inj.mp same
          rfl
      | badArgument _ _ _ => exact absurd same message_wrongCount_ne_badArgument
      | unknownCommand _ | emptyLine => cases lead
  | badArgument command position word =>
      cases other with
      | badArgument _ _ _ =>
          obtain ⟨rfl, rfl, rfl⟩ := message_badArgument_inj.mp same
          rfl
      | wrongCount _ _ _ => exact absurd same.symm message_wrongCount_ne_badArgument
      | unknownCommand _ | emptyLine => cases lead
  | emptyLine =>
      cases other with
      | emptyLine => rfl
      | unknownCommand _ | wrongCount _ _ _ | badArgument _ _ _ => cases lead

end FormFault

namespace Fault

theorem message_unknownColor (name : String)
    : (unknownColor name).message = "unknown color `" ++ (name ++ "`") := by
  change "unknown color `" ++ name ++ "`" = _
  rw [String.append_assoc]

/-- An unknown color is told in other words than an unknown command, and in words that begin
otherwise than those for other malformed lines.
-/
theorem message_unknownColor_ne_form {name : String} {fault : FormFault}
    : (unknownColor name).message ≠ (form fault).message := by
  intro same
  rw [message_unknownColor] at same
  cases fault with
  | unknownCommand word =>
      change _ = "unknown command `" ++ word ++ "`" at same
      have letter := congrArg (fun text => text.toList[10]?) same
      simp only [String.append_assoc, String.toList_append] at letter
      change some 'l' = some 'm' at letter
      cases letter
  | wrongCount _ _ _ | badArgument _ _ _ | emptyLine =>
      have lead := congrArg (fun text => text.toList.head?) same
      rw [Text.head?_append (c := 'u') rfl] at lead
      cases lead.trans (FormFault.head?_message _)

theorem message_inj {fault other : Fault} : fault.message = other.message ↔ fault = other := by
  refine ⟨fun same => ?_, congrArg message⟩
  cases fault with
  | form fault =>
      cases other with
      | form other => rw [FormFault.message_inj.mp same]
      | unknownColor name => exact absurd same.symm message_unknownColor_ne_form
  | unknownColor name =>
      cases other with
      | form other => exact absurd same message_unknownColor_ne_form
      | unknownColor other =>
          rw [message_unknownColor, message_unknownColor, String.append_right_inj,
            String.append_left_inj] at same
          rw [same]

end Fault

-----------------------------------------------------------------------------------------
-- Texts of faults at lines
-----------------------------------------------------------------------------------------

/-- The text of a run error is its code, its line and the text of its fault. -/
theorem RunError.message_inj {error other : RunError}
    : error.message = other.message ↔ error = other := by
  refine ⟨fun same => ?_, congrArg message⟩
  simp only [message, String.append_assoc] at same
  rw [String.append_right_inj] at same
  obtain ⟨-, rest⟩ :=
    (Text.append_inj_of_absent error.fault.code.bracket_not_mem_text (Text.head?_append rfl)
      other.fault.code.bracket_not_mem_text (Text.head?_append rfl)).mp same
  rw [String.append_right_inj,
    Text.toString_append_inj rfl (Text.head?_append (c := ' ') rfl) (Text.head?_append rfl),
    String.append_right_inj, Fault.message_inj] at rest
  obtain ⟨_, _⟩ := error
  obtain ⟨rfl, rfl⟩ := rest
  rfl

/-- The text of a violation is its line, its code and the text of its fault. -/
theorem Violation.message_inj {violation other : Violation}
    : violation.message = other.message ↔ violation = other := by
  refine ⟨fun same => ?_, congrArg message⟩
  simp only [message, String.append_assoc] at same
  rw [String.append_right_inj,
    Text.toString_append_inj rfl (Text.head?_append (c := ':') rfl) (Text.head?_append rfl),
    String.append_right_inj] at same
  obtain ⟨lines, rest⟩ := same
  obtain ⟨-, faults⟩ :=
    (Text.append_inj_of_absent violation.fault.code.bracket_not_mem_text (Text.head?_append rfl)
      other.fault.code.bracket_not_mem_text (Text.head?_append rfl)).mp rest
  rw [String.append_right_inj, FormFault.message_inj] at faults
  obtain ⟨_, _⟩ := violation
  obtain ⟨rfl, rfl⟩ := And.intro lines faults
  rfl

/-- Texts of faults are unambiguous. Run errors are told apart by their texts, and so are
violations, whatever their lines and kinds are and whatever is quoted in them. Even without its line
and its code a fault is told apart.
-/
theorem fault_texts_are_unambiguous
    : (∀ error other : RunError, error.message = other.message ↔ error = other)
      ∧ (∀ violation other : Violation, violation.message = other.message ↔ violation = other)
      ∧ ∀ fault other : Fault, fault.message = other.message ↔ fault = other :=
  ⟨fun _ _ => RunError.message_inj, fun _ _ => Violation.message_inj, fun _ _ => Fault.message_inj⟩

end PenPlotter
