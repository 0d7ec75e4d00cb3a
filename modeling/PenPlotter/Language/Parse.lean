import PenPlotter.Language.Fault
import PenPlotter.Language.Instruction
import PenPlotter.Text.Words

/-!
Reading a line as an instruction. The first thing wrong decides the answer: no words at all, a
first word that is no keyword, a wrong number of arguments, and then the first argument that is
not of its kind.
-/

namespace PenPlotter

/-- The word that is not of its kind, with its position among the arguments. -/
structure BadWord where
  position : Nat
  word : String
deriving DecidableEq, Repr

namespace Arguments

/-- Reads one word for each kind, the first of them at the given position, and stops at the
first word that is not of its kind.
-/
def read (position : Nat)
    : (kinds : List ArgumentKind) → (words : List String) → words.length = kinds.length
      → Except BadWord (Arguments kinds)
  | [], [], _ => .ok ()
  | kind :: kinds, word :: words, sameLength =>
      match Argument.read? kind word with
      | none => .error ⟨position, word⟩
      | some value =>
          match read (position + 1) kinds words (Nat.succ.inj sameLength) with
          | .ok values => .ok (value, values)
          | .error bad => .error bad

end Arguments

namespace Instruction

/-- The instruction that a list of words spells. -/
def ofWords : List String → Except FormFault Instruction
  | [] => .error .emptyLine
  | head :: words =>
      match Command.ofKeyword? head with
      | none => .error (.unknownCommand head)
      | some command =>
          if sameLength : words.length = command.arity then
            match Arguments.read 0 command.signature words sameLength with
            | .ok arguments => .ok (ofArguments command arguments)
            | .error bad => .error (.badArgument command bad.position bad.word)
          else .error (.wrongCount command command.arity words.length)

def parse (line : String) : Except FormFault Instruction :=
  ofWords (Text.words (Text.trim line))

end Instruction

end PenPlotter
