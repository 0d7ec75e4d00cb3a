import PenPlotter.Proofs.Plotting.LineFaults
import PenPlotter.Proofs.Text.SourceLines

/-!
A program against its raw lines typed one at a time. After a reset both come to the same pen and
canvas and stop at the same line; only the number that they report differs. So what a failing
program leaves behind is the work of the lines before the one that fails.
-/

namespace PenPlotter.Plotter

universe u

open Outcome

variable {κ : Type u} [Canvas κ]

-----------------------------------------------------------------------------------------
-- Raw lines as commands with numbers
-----------------------------------------------------------------------------------------

/-- Runs a raw line as a command, and reports its fault at the number given with it. -/
def runRaw (plotter : Plotter κ) (line : String × Nat) : Outcome κ RunError :=
  (plotter.runCommand line.1).mapError fun error => ⟨line.2, error.fault⟩

theorem runRaw_of_ok {plotter : Plotter κ} {line : String}
    (succeeded : (plotter.runCommand line).result = .ok ()) (n : Nat)
    : plotter.runRaw (line, n) = ⟨(plotter.runCommand line).plotter, .ok ()⟩ :=
  mapError_of_ok succeeded _

theorem runRaw_of_error {plotter : Plotter κ} {line : String} {error : RunError}
    (failed : (plotter.runCommand line).result = .error error) (n : Nat)
    : plotter.runRaw (line, n) = ⟨plotter, .error ⟨n, error.fault⟩⟩ := by
  rw [runRaw, (runCommand_of_error failed).2]
  rfl

theorem runRaw_of_blank (plotter : Plotter κ) {line : List Char}
    (blank : Text.trimChars line = []) (n : Nat)
    : plotter.runRaw (String.ofList line, n) = ⟨plotter, .ok ()⟩ := by
  rw [runRaw, runCommand_eq, Text.trim_ofList, blank]
  rfl

theorem runRaw_of_not_blank (plotter : Plotter κ) {line : List Char}
    (written : Text.trimChars line ≠ []) (n : Nat)
    : plotter.runRaw (String.ofList line, n)
      = plotter.runLine ⟨n, String.ofList (Text.trimChars line)⟩ := by
  have kept : String.ofList (Text.trimChars line) ≠ "" := by simpa using written
  rw [runRaw, runCommand_eq, Text.trim_ofList, if_neg kept, mapError_mapError]
  rfl

/-- Running numbered lines is running raw ones, by induction on them: the blank ones that
numbering leaves out do nothing.
-/
theorem each_numberLines (plotter : Plotter κ) (first : Nat) (lines : List (List Char))
    : plotter.each runLine (Text.numberLines first lines)
      = plotter.each runRaw ((lines.map String.ofList).zipIdx first) := by
  induction lines generalizing plotter first with
  | nil => rfl
  | cons line lines ih =>
      rw [Text.numberLines_cons, List.map_cons, List.zipIdx_cons, each_cons]
      -- A blank line takes its number on both sides, but only the right side runs it.
      by_cases blank : Text.trimChars line = []
      · rw [if_pos blank, runRaw_of_blank plotter blank, andThen_of_ok rfl, ih]
      · rw [if_neg blank, runRaw_of_not_blank plotter blank, each_cons]
        simp only [ih]

/-- A program is run raw line by raw line, numbered from one. -/
theorem run_eq_each (plotter : Plotter κ) (program : String)
    : plotter.run program
      = plotter.reset.each runRaw ((Text.rawLines program).zipIdx 1) := by
  rw [run, runLines, Text.sourceLines_eq_numberLines, each_numberLines, Text.rawLines]

-----------------------------------------------------------------------------------------
-- Where a row of commands stops
-----------------------------------------------------------------------------------------

/-- Commands that succeed come to the same with numbers, by induction on them. -/
theorem each_runRaw_of_ok {plotter : Plotter κ} {lines : List String}
    (succeeded : (plotter.each runCommand lines).result = .ok ()) (first : Nat)
    : plotter.each runRaw (lines.zipIdx first)
      = ⟨(plotter.each runCommand lines).plotter, .ok ()⟩ := by
  induction lines generalizing plotter first with
  | nil => rfl
  | cons line lines ih =>
      obtain ⟨passed, rest⟩ := each_cons_of_ok succeeded
      rw [rest] at succeeded
      rw [List.zipIdx_cons, each_cons, runRaw_of_ok passed, andThen_of_ok rfl, rest,
        ih succeeded]

/-- Commands up to a line succeed, and that line fails where they led. -/
structure StopsAt (plotter : Plotter κ) (before : List String) (line : String) (fault : Fault)
    : Prop where
  passed : (plotter.each runCommand before).result = .ok ()
  failed
    : ((plotter.each runCommand before).plotter.runCommand line).result = .error ⟨1, fault⟩

/-- Commands that fail stop at some line among them. -/
theorem exists_stopsAt {plotter : Plotter κ} {lines : List String} {error : RunError}
    (failed : (plotter.each runCommand lines).result = .error error)
    : ∃ before line after fault,
        lines = before ++ line :: after ∧ plotter.StopsAt before line fault := by
  obtain ⟨before, line, after, rfl, passed, same⟩ := each_first_failure failed
  rw [same] at failed
  obtain ⟨number, fault⟩ := error
  obtain rfl : number = 1 := (runCommand_of_error failed).1
  exact ⟨before, line, after, fault, rfl, passed, failed⟩

variable {plotter : Plotter κ} {before : List String} {line : String} {fault : Fault}

/-- Commands that stop at a line leave the work of those before it. -/
theorem StopsAt.each_runCommand (stop : plotter.StopsAt before line fault)
    (after : List String)
    : plotter.each runCommand (before ++ line :: after)
      = ⟨(plotter.each runCommand before).plotter, .error ⟨1, fault⟩⟩ := by
  rw [each_append, andThen_of_ok stop.passed, each_cons, andThen_of_error stop.failed]
  exact (runCommand_of_error stop.failed).2

/-- With numbers the same line is reported at its position. -/
theorem StopsAt.each_runRaw (stop : plotter.StopsAt before line fault) (after : List String)
    (first : Nat)
    : plotter.each runRaw ((before ++ line :: after).zipIdx first)
      = ⟨(plotter.each runCommand before).plotter,
          .error ⟨first + before.length, fault⟩⟩ := by
  have numbered := each_runRaw_of_ok stop.passed first
  have failed := runRaw_of_error stop.failed (first + before.length)
  rw [List.zipIdx_append, each_append, numbered, andThen_of_ok rfl, List.zipIdx_cons,
    each_cons, failed]
  rfl

/-- A program whose raw lines stop at one of them fails there. -/
theorem StopsAt.run {program : String} {after : List String}
    (stop : plotter.reset.StopsAt before line fault)
    (split : Text.rawLines program = before ++ line :: after)
    : plotter.run program
      = ⟨(plotter.reset.each runCommand before).plotter,
          .error ⟨before.length + 1, fault⟩⟩ := by
  rw [run_eq_each, split, stop.each_runRaw, Nat.add_comm]

/-- A program whose raw lines succeed as commands succeeds, with the same work. -/
theorem run_of_commands_ok {plotter : Plotter κ} {program : String}
    (succeeded : (plotter.reset.each runCommand (Text.rawLines program)).result = .ok ())
    : plotter.run program
      = ⟨(plotter.reset.each runCommand (Text.rawLines program)).plotter, .ok ()⟩ := by
  rw [run_eq_each, each_runRaw_of_ok succeeded]

theorem exists_stop_of_run_error {plotter : Plotter κ} {program : String} {error : RunError}
    (failed : (plotter.run program).result = .error error)
    : ∃ before line after fault,
        Text.rawLines program = before ++ line :: after
        ∧ plotter.reset.StopsAt before line fault := by
  rcases (plotter.reset.each runCommand (Text.rawLines program)).result_cases with
    succeeded | ⟨first, stopped⟩
  · rw [run_of_commands_ok succeeded] at failed
    cases failed
  · exact exists_stopsAt stopped

/-- Lines that succeed as commands succeed as a program. The program of no lines has one raw
line, which is blank.
-/
theorem run_joinLines_of_ok {plotter : Plotter κ} {lines : List String}
    (single : ∀ line ∈ lines, '\n' ∉ line.toList)
    (succeeded : (plotter.reset.each runCommand lines).result = .ok ())
    : plotter.run (Text.joinLines lines)
      = ⟨(plotter.reset.each runCommand lines).plotter, .ok ()⟩ := by
  by_cases empty : lines = []
  · subst lines
    rfl
  · have raw := Text.rawLines_joinLines empty single
    rw [← raw] at succeeded
    rw [run_of_commands_ok succeeded, raw]

/-- The program of the raw lines before the one that fails succeeds with what the failing
program leaves behind.
-/
theorem StopsAt.run_before {program : String} {after : List String}
    (stop : plotter.reset.StopsAt before line fault)
    (split : Text.rawLines program = before ++ line :: after)
    : plotter.run (Text.joinLines before)
      = ⟨(plotter.reset.each runCommand before).plotter, .ok ()⟩ := by
  apply run_joinLines_of_ok ?_ stop.passed
  intro line member
  have known : line ∈ Text.rawLines program := by
    rw [split]
    exact List.mem_append_left _ member
  exact Text.not_mem_of_mem_rawLines known

/-- A program with the same raw lines up to the one that fails comes to the same. -/
theorem StopsAt.run_of_same_start {program other : String} {after : List String}
    (stop : plotter.reset.StopsAt before line fault)
    (split : Text.rawLines program = before ++ line :: after)
    (same
      : (Text.rawLines other).take (before.length + 1)
        = (Text.rawLines program).take (before.length + 1))
    : plotter.run other
      = ⟨(plotter.reset.each runCommand before).plotter,
          .error ⟨before.length + 1, fault⟩⟩ := by
  have start : (Text.rawLines program).take (before.length + 1) = before ++ [line] := by
    rw [split, List.take_length_add_append]
    rfl
  have rest := List.take_append_drop (before.length + 1) (Text.rawLines other)
  rw [same, start, List.append_assoc, List.singleton_append] at rest
  exact stop.run rest.symm

-----------------------------------------------------------------------------------------
-- Programs and commands
-----------------------------------------------------------------------------------------

/-- Running a program is resetting the plotter and typing its raw lines as commands, up to the
first that fails. Pen and canvas come out the same, and both succeed or both have the same fault
at the same line. A command reports it at line one, and the program at the position of the line
among all raw lines, blank ones included.
-/
theorem run_eq_typing (plotter : Plotter κ) (program : String)
    : let lines := Text.rawLines program
      let typed := plotter.reset.each runCommand lines
      (plotter.run program).plotter = typed.plotter
      ∧ (((plotter.run program).result = .ok () ∧ typed.result = .ok ())
        ∨ ∃ before line after fault,
            lines = before ++ line :: after
            ∧ plotter.reset.StopsAt before line fault
            ∧ typed.result = .error ⟨1, fault⟩
            ∧ (plotter.run program).result = .error ⟨before.length + 1, fault⟩) := by
  intro lines typed
  rcases typed.result_cases with succeeded | ⟨error, failed⟩
  · have same := run_of_commands_ok succeeded
    exact ⟨by rw [same], Or.inl ⟨by rw [same], succeeded⟩⟩
  · obtain ⟨before, line, after, fault, split, stop⟩ := exists_stopsAt failed
    have commands
        : typed = ⟨(plotter.reset.each runCommand before).plotter, .error ⟨1, fault⟩⟩ := by
      simp only [typed, split]
      exact stop.each_runCommand after
    have whole := stop.run split
    refine ⟨by rw [whole, commands], Or.inr ⟨before, line, after, fault, split, stop, ?_, ?_⟩⟩
    · rw [commands]
    · rw [whole]

/-- What a failure leaves behind is the work of what came before it. When a program fails at a
line, the program of the raw lines before that one succeeds on the same plotter with the same
pen and canvas, and every program with the same raw lines up to that one fails in the same way.
A command or an instruction that fails changes nothing.
-/
theorem failure_leaves_earlier_work (plotter : Plotter κ)
    : (∀ program error,
        (plotter.run program).result = .error error
        → 1 ≤ error.line
          ∧ error.line ≤ (Text.rawLines program).length
          ∧ plotter.run (Text.joinLines ((Text.rawLines program).take (error.line - 1)))
            = ⟨(plotter.run program).plotter, .ok ()⟩
          ∧ ∀ other,
              (Text.rawLines other).take error.line
                = (Text.rawLines program).take error.line
              → plotter.run other = plotter.run program)
      ∧ (∀ line error,
          (plotter.runCommand line).result = .error error
          → (plotter.runCommand line).plotter = plotter)
      ∧ (∀ instruction fault,
          (plotter.perform instruction).result = .error fault
          → (plotter.perform instruction).plotter = plotter) := by
  refine ⟨?_, ?_, fun instruction fault failed => perform_plotter_of_error failed⟩
  · intro program error failed
    obtain ⟨before, line, after, fault, split, stop⟩ := exists_stop_of_run_error failed
    have whole := stop.run split
    rw [whole] at failed
    obtain rfl := Except.error.inj failed
    refine ⟨Nat.le_add_left 1 before.length, ?_, ?_, ?_⟩
    · simp only [split, List.length_append, List.length_cons]
      omega
    · rw [whole, split]
      simpa only [Nat.add_sub_cancel, List.take_left] using stop.run_before split
    · intro other same
      rw [whole, stop.run_of_same_start split same]
  · intro line error failed
    rw [(runCommand_of_error failed).2]

/-- A failure at an unknown color after a blank line, and failures of a command and of an
instruction.
-/
theorem failure_leaves_earlier_work_samples
    : let fresh : Plotter Recording := ⟨{}, {}⟩
      let program := "clear\n\ncolor puce\nclear"
      ((fresh.run program).result = .error ⟨3, .unknownColor "puce"⟩
        ∧ fresh.run "clear\n" = ⟨(fresh.run program).plotter, .ok ()⟩
        ∧ fresh.run "clear\n\ncolor puce\nfill?" = fresh.run program)
      ∧ ((fresh.runCommand " bogus").result = .error ⟨1, .form (.unknownCommand "bogus")⟩
        ∧ (fresh.runCommand " bogus").plotter = fresh)
      ∧ ((fresh.perform (.setColor "puce")).result = .error (.unknownColor "puce")
        ∧ (fresh.perform (.setColor "puce")).plotter = fresh) := by
  intro fresh program
  have failed : (fresh.run program).result = .error ⟨3, .unknownColor "puce"⟩ := by
    subst fresh program
    rfl
  have refused
      : (fresh.runCommand " bogus").result = .error ⟨1, .form (.unknownCommand "bogus")⟩ := by
    subst fresh
    rfl
  have unknown
      : (fresh.perform (.setColor "puce")).result = .error (.unknownColor "puce") := by
    rfl
  have start : Text.joinLines ((Text.rawLines program).take 2) = "clear\n" := by
    subst program
    decide +kernel
  have alternative
      : (Text.rawLines "clear\n\ncolor puce\nfill?").take 3
        = (Text.rawLines program).take 3 := by
    subst program
    decide +kernel
  obtain ⟨programs, commands, instructions⟩ := failure_leaves_earlier_work fresh
  obtain ⟨-, -, earlier, alike⟩ := programs program _ failed
  rw [← start]
  exact ⟨⟨failed, earlier, alike _ alternative⟩, ⟨refused, commands _ _ refused⟩,
    unknown, instructions _ _ unknown⟩

end PenPlotter.Plotter
