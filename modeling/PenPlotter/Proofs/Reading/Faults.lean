import PenPlotter.Proofs.Reading.Grammar

/-!
What reading finds wrong with words. The first thing wrong is told here from the words alone: that
there are none, that the first is no keyword, that the others are too few or too many, or which of
them is the first that is not accepted in its place. Every list of words that writes no instruction
has exactly one such fault, and reading reports that one.
-/

namespace PenPlotter

namespace Arguments

/-- The word at a position is not accepted by the kind in its place, and each word before it is. -/
structure FirstRefused (kinds : List ArgumentKind) (words : List String) (position : Nat)
    (word : String)
    : Prop where
  found : words[position]? = some word
  refused : ∃ kind, kinds[position]? = some kind ∧ ¬ Argument.Accepts kind word
  earlier : List.Forall₂ Argument.Accepts (kinds.take position) (words.take position)

variable {kind : ArgumentKind} {kinds : List ArgumentKind} {first : String} {words : List String}
    {position : Nat} {word : String}

/-- A first word that is not accepted is the first refused, and the only one. -/
theorem firstRefused_cons_of_refused (refused : ¬ Argument.Accepts kind first)
    : FirstRefused (kind :: kinds) (first :: words) position word
      ↔ position = 0 ∧ word = first := by
  constructor
  · intro h
    cases position with
    | zero => exact ⟨rfl, Option.some.inj h.found.symm⟩
    | succ position =>
        obtain ⟨accepted, -⟩ := List.forall₂_cons.mp h.earlier
        exact absurd accepted refused
  · rintro ⟨rfl, rfl⟩
    exact ⟨rfl, ⟨kind, rfl, refused⟩, .nil⟩

/-- After a word that is accepted, the first refused is that of the words that follow. -/
theorem firstRefused_cons_of_accepted (accepted : Argument.Accepts kind first)
    : FirstRefused (kind :: kinds) (first :: words) position word
      ↔ ∃ after, position = after + 1 ∧ FirstRefused kinds words after word := by
  constructor
  · intro h
    cases position with
    | zero =>
        obtain ⟨_, same, refused⟩ := h.refused
        cases same
        cases h.found
        exact absurd accepted refused
    | succ after =>
        obtain ⟨-, later⟩ := List.forall₂_cons.mp h.earlier
        exact ⟨after, rfl, h.found, h.refused, later⟩
  · rintro ⟨after, rfl, h⟩
    exact ⟨h.found, h.refused, .cons accepted h.earlier⟩

theorem FirstRefused.lt (h : FirstRefused kinds words position word)
    : position < kinds.length := by
  obtain ⟨_, present, -⟩ := h.refused
  exact (List.getElem?_eq_some_iff.mp present).1

/-- Reading stops at the first word that is refused, by induction on the kinds. Positions count on
from that of the first word.
-/
theorem read_eq_error_iff {start : Nat} {kinds : List ArgumentKind} {words : List String}
    {sameLength : words.length = kinds.length} {bad : BadWord}
    : read start kinds words sameLength = .error bad
      ↔ ∃ position, bad.position = start + position
          ∧ FirstRefused kinds words position bad.word := by
  induction kinds generalizing start words with
  | nil =>
      cases words with
      | nil =>
          have none (position : Nat) : ¬ FirstRefused [] [] position bad.word := by
            intro h
            cases h.found
          simp [read, none]
      | cons word words => cases sameLength
  | cons kind kinds ih =>
      cases words with
      | nil => cases sameLength
      | cons word words =>
          rw [read]
          cases spelled : Argument.read? kind word with
          | none =>
              have refused : ¬ Argument.Accepts kind word := by
                rintro ⟨value, spells⟩
                rw [Argument.read?_eq_some_iff.mpr spells] at spelled
                cases spelled
              simp only [firstRefused_cons_of_refused refused]
              constructor
              · rintro ⟨⟩
                exact ⟨0, rfl, rfl, rfl⟩
              · rintro ⟨_, there, rfl, same⟩
                obtain ⟨_, _⟩ := bad
                cases there
                cases same
                rfl
          | some value =>
              have accepted : Argument.Accepts kind word :=
                ⟨value, Argument.read?_eq_some_iff.mp spelled⟩
              have shifted
                  : (∃ position,
                      bad.position = start + position
                      ∧ FirstRefused (kind :: kinds) (word :: words) position bad.word)
                    ↔ ∃ after,
                        bad.position = start + 1 + after
                        ∧ FirstRefused kinds words after bad.word := by
                simp only [firstRefused_cons_of_accepted accepted]
                constructor
                · rintro ⟨_, there, after, rfl, h⟩
                  exact ⟨after, by omega, h⟩
                · rintro ⟨after, there, h⟩
                  exact ⟨after + 1, by omega, after, rfl, h⟩
              rw [shifted, ← @ih (start + 1) words (Nat.succ.inj sameLength)]
              cases read (start + 1) kinds words (Nat.succ.inj sameLength) <;> simp

end Arguments

theorem Command.ofKeyword?_eq_none_iff {word : String}
    : ofKeyword? word = none
      ↔ ∀ command, ¬ Text.AlikeButForCase (Command.keyword command) word := by
  rw [Option.eq_none_iff_forall_ne_some]
  simp only [ne_eq, ofKeyword?_eq_some_iff]

namespace Instruction

/-- A fault is the first thing wrong with words. An unknown first word and a wrong number of others
are faults whatever the others are, and an argument is only at fault when their number is right.
-/
def FirstFault (words : List String) : FormFault → Prop
  | .emptyLine => words = []
  | .unknownCommand name =>
      ∃ arguments,
        words = name :: arguments
        ∧ ∀ command, ¬ Text.AlikeButForCase (Command.keyword command) name
  | .wrongCount command expected found =>
      ∃ head arguments,
        words = head :: arguments
        ∧ Text.AlikeButForCase command.keyword head
        ∧ expected = command.arity
        ∧ found = arguments.length
        ∧ found ≠ expected
  | .badArgument command position word =>
      ∃ head arguments,
        words = head :: arguments
        ∧ Text.AlikeButForCase command.keyword head
        ∧ arguments.length = command.arity
        ∧ position < command.arity
        ∧ Arguments.FirstRefused command.signature arguments position word

/-- Reading that fails names the first thing wrong, by cases on how far it gets. -/
theorem firstFault_of_error {words : List String} {fault : FormFault}
    (failed : ofWords words = .error fault)
    : FirstFault words fault := by
  cases words with
  | nil =>
      cases failed
      rfl
  | cons head arguments =>
      rw [ofWords] at failed
      split at failed
      next unknown =>
        cases failed
        exact ⟨arguments, rfl, Command.ofKeyword?_eq_none_iff.mp unknown⟩
      next command known =>
        have alike := Command.ofKeyword?_eq_some_iff.mp known
        split at failed
        next sameLength =>
          split at failed
          next => cases failed
          next bad stopped =>
            cases failed
            obtain ⟨position, there, refused⟩ := Arguments.read_eq_error_iff.mp stopped
            rw [Nat.zero_add] at there
            rw [← there] at refused
            exact ⟨head, arguments, rfl, alike, sameLength, refused.lt, refused⟩
        next otherLength =>
          cases failed
          exact ⟨head, arguments, rfl, alike, rfl, rfl, otherLength⟩

/-- Reading fails with the first thing wrong, by cases on what that is. -/
theorem error_of_firstFault {words : List String} {fault : FormFault}
    (wrong : FirstFault words fault)
    : ofWords words = .error fault := by
  cases fault with
  | emptyLine =>
      obtain rfl : words = [] := wrong
      rfl
  | unknownCommand name =>
      obtain ⟨arguments, rfl, unknown⟩ := wrong
      simp only [ofWords, Command.ofKeyword?_eq_none_iff.mpr unknown]
  | wrongCount command expected found =>
      obtain ⟨head, arguments, rfl, alike, rfl, rfl, otherLength⟩ := wrong
      simp only [ofWords, Command.ofKeyword?_eq_some_iff.mpr alike, dif_neg otherLength]
  | badArgument command position word =>
      obtain ⟨head, arguments, rfl, alike, sameLength, -, refused⟩ := wrong
      have stopped
          : Arguments.read 0 command.signature arguments sameLength
            = .error ⟨position, word⟩ :=
        Arguments.read_eq_error_iff.mpr ⟨position, (Nat.zero_add position).symm, refused⟩
      simp only [ofWords, Command.ofKeyword?_eq_some_iff.mpr alike, dif_pos sameLength, stopped]

theorem ofWords_eq_error_iff {words : List String} {fault : FormFault}
    : ofWords words = .error fault ↔ FirstFault words fault :=
  ⟨firstFault_of_error, error_of_firstFault⟩

/-- Reading names the first thing wrong. Its fault is always the first fault of the words, and words
have a first fault, and then only one, exactly when they write no instruction.
-/
theorem names_the_first_fault
    : (∀ words fault, ofWords words = .error fault ↔ FirstFault words fault)
      ∧ ∀ words,
          (∀ instruction, ¬ WrittenAs instruction words) ↔ ∃! fault, FirstFault words fault := by
  refine ⟨fun _ _ => ofWords_eq_error_iff, fun words => ?_⟩
  simp only [← ofWords_eq_error_iff, ← ofWords_eq_ok_iff_writtenAs]
  cases ofWords words with
  | ok instruction => simp
  | error fault => simp

/-- The number of arguments is looked at before any of them, and of two bad ones the first is named.
-/
example
    : ofWords ["MOVETO", "x"] = .error (.wrongCount .moveTo 2 1)
      ∧ ofWords ["fill", ""] = .error (.badArgument .fill 0 "")
      ∧ ofWords ["rectangle", "1", "x", "3", "y"] = .error (.badArgument .rectangle 1 "x") := by
  decide +kernel

end Instruction

end PenPlotter
