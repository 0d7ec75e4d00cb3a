import PenPlotter.Language.Parse
import PenPlotter.Proofs.Reading.Spelling
import PenPlotter.Proofs.Text.Words

/-!
The grammar of the language, told from the instructions: each is written as its keyword and one
word for each of its fields, in a fixed order. Reading accepts exactly what is so written, and
gives back the instruction.
-/

namespace PenPlotter

/-- A value that an instruction holds, with the kind of argument that it comes from. -/
structure Field where
  kind : ArgumentKind
  value : kind.Value

def Field.SpelledBy (field : Field) (word : String) : Prop :=
  Argument.Spells field.kind word field.value

namespace Instruction

/-- All that an instruction holds, in the order in which it is written. -/
def fields : Instruction → List Field
  | .moveTo target | .drawTo target => [⟨.number, target.x⟩, ⟨.number, target.y⟩]
  | .clear => []
  | .rectangle box =>
      [⟨.number, box.x⟩, ⟨.number, box.y⟩, ⟨.number, box.width⟩, ⟨.number, box.height⟩]
  | .circle radius => [⟨.number, radius⟩]
  | .triangle first second third =>
      [⟨.number, first.x⟩, ⟨.number, first.y⟩, ⟨.number, second.x⟩, ⟨.number, second.y⟩,
        ⟨.number, third.x⟩, ⟨.number, third.y⟩]
  | .setColor name => [⟨.colorName, name⟩]
  | .setFill enabled => [⟨.toggle, enabled⟩]

/-- Words write an instruction when the first is its keyword, in any letter case, and the others
spell its fields one by one.
-/
def WrittenAs (instruction : Instruction) (words : List String) : Prop :=
  ∃ head arguments,
    words = head :: arguments
    ∧ Text.AlikeButForCase instruction.command.keyword head
    ∧ List.Forall₂ Field.SpelledBy instruction.fields arguments

end Instruction

namespace Arguments

def fields : (kinds : List ArgumentKind) → Arguments kinds → List Field
  | [], () => []
  | kind :: kinds, (value, values) => ⟨kind, value⟩ :: fields kinds values

theorem map_kind_fields (kinds : List ArgumentKind) (values : Arguments kinds)
    : (fields kinds values).map Field.kind = kinds := by
  induction kinds with
  | nil => rfl
  | cons kind kinds ih => simp only [fields, List.map_cons, ih values.2]

/-- Arguments are read from the words that spell them one by one, by induction on the kinds. -/
theorem read_eq_ok_iff {position : Nat} {kinds : List ArgumentKind} {words : List String}
    {sameLength : words.length = kinds.length} {values : Arguments kinds}
    : read position kinds words sameLength = .ok values
      ↔ List.Forall₂ Field.SpelledBy (fields kinds values) words := by
  induction kinds generalizing position words with
  | nil =>
      cases words with
      | nil => exact iff_of_true rfl .nil
      | cons word words => cases sameLength
  | cons kind kinds ih =>
      cases words with
      | nil => cases sameLength
      | cons word words =>
          obtain ⟨value, values⟩ := values
          rw [read, fields, List.forall₂_cons, Field.SpelledBy, ← Argument.read?_eq_some_iff]
          cases Argument.read? kind word with
          | none => simp
          | some found =>
              have rest := @ih (position + 1) words (Nat.succ.inj sameLength) values
              rw [← rest]
              cases read (position + 1) kinds words (Nat.succ.inj sameLength) <;> simp

/-- There are arguments to spell when each word is accepted by its kind. -/
theorem exists_spelled_iff {kinds : List ArgumentKind} {words : List String}
    : (∃ values, List.Forall₂ Field.SpelledBy (fields kinds values) words)
      ↔ List.Forall₂ Argument.Accepts kinds words := by
  constructor
  · intro h
    obtain ⟨values, spelled⟩ := h
    have accepted
        : List.Forall₂ (fun field word => Argument.Accepts (Field.kind field) word)
          (fields kinds values) words :=
      spelled.imp fun field word spells => ⟨field.value, spells⟩
    rwa [← List.forall₂_map_left_iff, map_kind_fields] at accepted
  · intro accepted
    induction accepted with
    | nil => exact ⟨(), .nil⟩
    | cons here _ ih =>
        obtain ⟨value, spells⟩ := here
        obtain ⟨values, spelled⟩ := ih
        exact ⟨(value, values), .cons spells spelled⟩

end Arguments

namespace Instruction

theorem command_ofArguments (command : Command) (values : Arguments command.signature)
    : (ofArguments command values).command = command := by
  cases command <;> rfl

/-- Every argument becomes the field of its own place. -/
theorem fields_ofArguments (command : Command) (values : Arguments command.signature)
    : (ofArguments command values).fields = Arguments.fields command.signature values := by
  cases command <;> rfl

/-- Every instruction comes of arguments for its command. -/
theorem exists_ofArguments (instruction : Instruction)
    : ∃ values, ofArguments instruction.command values = instruction := by
  cases instruction with
  | moveTo target => exact ⟨(target.x, target.y, ()), rfl⟩
  | drawTo target => exact ⟨(target.x, target.y, ()), rfl⟩
  | clear => exact ⟨(), rfl⟩
  | rectangle box => exact ⟨(box.x, box.y, box.width, box.height, ()), rfl⟩
  | circle radius => exact ⟨(radius, ()), rfl⟩
  | triangle first second third =>
      exact ⟨(first.x, first.y, second.x, second.y, third.x, third.y, ()), rfl⟩
  | setColor name => exact ⟨(name, ()), rfl⟩
  | setFill enabled => exact ⟨(enabled, ()), rfl⟩

theorem map_kind_fields (instruction : Instruction)
    : instruction.fields.map Field.kind = instruction.command.signature := by
  obtain ⟨values, same⟩ := instruction.exists_ofArguments
  rw [← same, fields_ofArguments, command_ofArguments, Arguments.map_kind_fields]

theorem length_fields (instruction : Instruction)
    : instruction.fields.length = instruction.command.arity := by
  rw [Command.arity, ← map_kind_fields, List.length_map]

/-- Words are read when a command is found for the first, and the others spell arguments of its
signature.
-/
theorem ofWords_eq_ok_iff {words : List String} {instruction : Instruction}
    : ofWords words = .ok instruction
      ↔ ∃ head arguments command values,
          words = head :: arguments
          ∧ Text.AlikeButForCase (Command.keyword command) head
          ∧ List.Forall₂ Field.SpelledBy (Arguments.fields command.signature values) arguments
          ∧ ofArguments command values = instruction := by
  simp only [← Command.ofKeyword?_eq_some_iff]
  constructor
  · intro read
    cases words with
    | nil => cases read
    | cons head arguments =>
        rw [ofWords] at read
        split at read
        next => cases read
        next command known =>
          split at read
          next sameLength =>
            split at read
            next values spelled =>
              exact ⟨head, arguments, command, values, rfl, known,
                Arguments.read_eq_ok_iff.mp spelled, Except.ok.inj read⟩
            next => cases read
          next => cases read
  · intro h
    obtain ⟨head, arguments, command, values, rfl, known, spelled, rfl⟩ := h
    have sameLength : arguments.length = command.arity := by
      rw [← spelled.length_eq, ← fields_ofArguments, length_fields, command_ofArguments]
    have read : Arguments.read 0 command.signature arguments sameLength = .ok values :=
      Arguments.read_eq_ok_iff.mpr spelled
    simp only [ofWords, known, dif_pos sameLength, read]

theorem ofWords_eq_ok_iff_writtenAs {words : List String} {instruction : Instruction}
    : ofWords words = .ok instruction ↔ instruction.WrittenAs words := by
  rw [ofWords_eq_ok_iff]
  constructor
  · intro h
    obtain ⟨head, arguments, command, values, rfl, alike, spelled, rfl⟩ := h
    refine ⟨head, arguments, rfl, ?_, ?_⟩
    · rwa [command_ofArguments]
    · rwa [fields_ofArguments]
  · intro written
    obtain ⟨head, arguments, rfl, alike, spelled⟩ := written
    obtain ⟨values, same⟩ := instruction.exists_ofArguments
    refine ⟨head, arguments, instruction.command, values, rfl, alike, ?_, same⟩
    rwa [← fields_ofArguments, same]

/-- Words are read as an instruction of a command when the first is its keyword and each of the
others is accepted in its place.
-/
theorem exists_ofWords_eq_ok_iff {words : List String} {command : Command}
    : (∃ instruction, ofWords words = .ok instruction ∧ instruction.command = command)
      ↔ ∃ head arguments,
          words = head :: arguments
          ∧ Text.AlikeButForCase command.keyword head
          ∧ List.Forall₂ Argument.Accepts command.signature arguments := by
  simp only [ofWords_eq_ok_iff, ← Arguments.exists_spelled_iff]
  constructor
  · intro h
    obtain ⟨_, ⟨head, arguments, found, values, rfl, alike, spelled, rfl⟩, same⟩ := h
    obtain rfl := (command_ofArguments found values).symm.trans same
    exact ⟨head, arguments, rfl, alike, values, spelled⟩
  · intro h
    obtain ⟨head, arguments, rfl, alike, values, spelled⟩ := h
    exact ⟨ofArguments command values,
      ⟨head, arguments, command, values, rfl, alike, spelled, rfl⟩,
      command_ofArguments command values⟩

/-- Reading accepts exactly what the grammar writes. A list of words is read as the one instruction
that they write, field by field in written order. Words are read as an instruction of a command
exactly when the first is its keyword up to case and as many others follow as it takes, each
accepted by the kind in its place. And a line is read as its words are.
-/
theorem reads_exactly_its_grammar
    : (∀ words instruction,
        ofWords words = .ok instruction ↔ WrittenAs instruction words)
      ∧ (∀ words command,
          (∃ instruction, ofWords words = .ok instruction ∧ instruction.command = command)
          ↔ ∃ head arguments,
              words = head :: arguments
              ∧ Text.AlikeButForCase command.keyword head
              ∧ arguments.length = command.arity
              ∧ List.Forall₂ Argument.Accepts command.signature arguments)
      ∧ (∀ instruction : Instruction,
          instruction.fields.map Field.kind = instruction.command.signature)
      ∧ ∀ line, parse line = ofWords (Text.words line) := by
  refine ⟨fun _ _ => ofWords_eq_ok_iff_writtenAs, ?_, map_kind_fields, ?_⟩
  · intro words command
    rw [exists_ofWords_eq_ok_iff]
    constructor
    · intro h
      obtain ⟨head, arguments, rfl, alike, accepted⟩ := h
      exact ⟨head, arguments, rfl, alike, accepted.length_eq.symm, accepted⟩
    · intro h
      obtain ⟨head, arguments, rfl, alike, -, accepted⟩ := h
      exact ⟨head, arguments, rfl, alike, accepted⟩
  · intro line
    rw [parse, Text.words_trim]

/-- Letter case counts in no word, and the color name is kept in small letters. -/
example : parse "COLOR\tRed " = .ok (.setColor "red") := by rfl

end Instruction

end PenPlotter
