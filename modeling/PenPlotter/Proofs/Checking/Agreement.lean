import PenPlotter.Language.Check
import PenPlotter.Proofs.Plotting.LineFaults
import PenPlotter.Proofs.Text.SourceLines

/-!
Checking a program against running it. Both read the same numbered lines. A run stops at the
first line with any fault and a check lists every malformed line, so they disagree only where an
unknown color stops the run first.
-/

namespace PenPlotter

universe u

-----------------------------------------------------------------------------------------
-- Violations among the faults of lines
-----------------------------------------------------------------------------------------

theorem RunError.ofLine?_eq_some {line : Text.SourceLine} {n : Nat} {fault : Fault}
    : RunError.ofLine? line = some ⟨n, fault⟩
      ↔ line.number = n ∧ Fault.ofLine? line.text = some fault := by
  rw [RunError.ofLine?, Option.map_eq_some_iff]
  constructor
  · rintro ⟨_, known, same⟩
    obtain ⟨rfl, rfl⟩ := RunError.mk.inj same
    exact ⟨rfl, known⟩
  · rintro ⟨rfl, known⟩
    exact ⟨fault, known, rfl⟩

/-- The violation of a line is its fault when that is one of form, by cases on what it reads as. -/
theorem Violation.ofLine?_eq_some {line : Text.SourceLine} {n : Nat} {fault : FormFault}
    : Violation.ofLine? line = some ⟨n, fault⟩
      ↔ RunError.ofLine? line = some ⟨n, .form fault⟩ := by
  rw [RunError.ofLine?_eq_some, Fault.ofLine?_eq_form, Violation.ofLine?]
  cases Instruction.parse line.text <;> simp

theorem Violation.line_of_ofLine? {line : Text.SourceLine} {violation : Violation}
    (known : Violation.ofLine? line = some violation)
    : violation.line = line.number :=
  RunError.line_of_ofLine? (Violation.ofLine?_eq_some.mp known)

/-- A line that runs is well formed. -/
theorem Violation.ofLine?_eq_none {line : Text.SourceLine}
    (runs : RunError.ofLine? line = none)
    : Violation.ofLine? line = none := by
  cases found : Violation.ofLine? line with
  | none => rfl
  | some violation =>
      rw [Violation.ofLine?_eq_some.mp found] at runs
      cases runs

/-- A line that does not run although it is well formed asks for an unknown color. -/
theorem RunError.unknownColor_of_wellFormed {line : Text.SourceLine} {error : RunError}
    (fails : RunError.ofLine? line = some error) (formed : Violation.ofLine? line = none)
    : ∃ name, error = ⟨line.number, .unknownColor name⟩ := by
  obtain ⟨n, fault⟩ := error
  obtain rfl := RunError.line_of_ofLine? fails
  cases fault with
  | form fault =>
      rw [Violation.ofLine?_eq_some.mpr fails] at formed
      cases formed
  | unknownColor name => exact ⟨name, rfl⟩

-----------------------------------------------------------------------------------------
-- The first fault and the violations of numbered lines
-----------------------------------------------------------------------------------------

section

variable {lines : List Text.SourceLine}

/-- Some line before a given number asks for a color that does not exist. -/
def UnknownColorBefore (lines : List Text.SourceLine) (n : Nat) : Prop :=
  ∃ line ∈ lines,
    line.number < n
    ∧ ∃ name, Instruction.parse line.text = .ok (.setColor name) ∧ Color.ofName? name = none

theorem violations_eq_nil_of_no_error (none : lines.findSome? RunError.ofLine? = none)
    : lines.filterMap Violation.ofLine? = [] := by
  apply List.filterMap_eq_nil_iff.mpr
  intro line member
  exact Violation.ofLine?_eq_none (List.findSome?_eq_none_iff.mp none line member)

/-- A first fault of form is the first violation: no line before it has any fault. -/
theorem head?_violations_of_form {n : Nat} {fault : FormFault}
    (first : lines.findSome? RunError.ofLine? = some ⟨n, .form fault⟩)
    : (lines.filterMap Violation.ofLine?).head? = some ⟨n, fault⟩ := by
  obtain ⟨before, line, after, rfl, here, earlier⟩ := List.findSome?_eq_some_iff.mp first
  rw [List.head?_filterMap]
  refine List.findSome?_eq_some_iff.mpr
    ⟨before, line, after, rfl, Violation.ofLine?_eq_some.mpr here, ?_⟩
  intro line member
  exact Violation.ofLine?_eq_none (earlier line member)

/-- Among ordered lines those after one have greater numbers. -/
theorem number_lt_of_mem_after {before after : List Text.SourceLine}
    {line other : Text.SourceLine}
    (ordered
      : (before ++ line :: after).Pairwise fun line next => line.number < next.number)
    (member : other ∈ after)
    : line.number < other.number := by
  obtain ⟨-, follow, -⟩ := List.pairwise_append.mp ordered
  exact (List.pairwise_cons.mp follow).1 other member

/-- When an unknown color is the first fault, all violations come after it, by the order of the
numbers.
-/
theorem violations_after_unknownColor
    (ordered : lines.Pairwise fun line next => line.number < next.number)
    {n : Nat} {name : String}
    (first : lines.findSome? RunError.ofLine? = some ⟨n, .unknownColor name⟩)
    : (∃ text,
        ⟨n, text⟩ ∈ lines
        ∧ Instruction.parse text = .ok (.setColor name)
        ∧ Color.ofName? name = none)
      ∧ ∀ violation ∈ lines.filterMap Violation.ofLine?, n < violation.line := by
  obtain ⟨before, ⟨number, text⟩, after, rfl, here, earlier⟩ :=
    List.findSome?_eq_some_iff.mp first
  obtain ⟨rfl, fault⟩ := RunError.ofLine?_eq_some.mp here
  refine ⟨⟨text, by simp, Fault.ofLine?_eq_unknownColor.mp fault⟩, ?_⟩
  intro violation member
  obtain ⟨line, known, found⟩ := List.mem_filterMap.mp member
  rw [Violation.line_of_ofLine? found]
  rcases List.mem_append.mp known with sooner | known
  · rw [Violation.ofLine?_eq_none (earlier line sooner)] at found
    cases found
  · rcases List.mem_cons.mp known with rfl | later
    · rw [Violation.ofLine?_eq_some.mp found] at here
      cases here
    · exact number_lt_of_mem_after ordered later

/-- Among ordered lines those with smaller numbers than one stand before it. -/
theorem mem_before_of_lt {before after : List Text.SourceLine} {line other : Text.SourceLine}
    (ordered
      : (before ++ line :: after).Pairwise fun line next => line.number < next.number)
    (member : other ∈ before ++ line :: after) (less : other.number < line.number)
    : other ∈ before := by
  rcases List.mem_append.mp member with inside | beyond
  · exact inside
  · rcases List.mem_cons.mp beyond with rfl | later
    · omega
    · have greater := number_lt_of_mem_after ordered later
      omega

/-- Lines with a violation fail no later than there, and there unless an unknown color comes
before. By the order of the numbers the lines before the violation are those with smaller ones.
-/
theorem error_of_first_violation
    (ordered : lines.Pairwise fun line next => line.number < next.number)
    {n : Nat} {fault : FormFault}
    (first : (lines.filterMap Violation.ofLine?).head? = some ⟨n, fault⟩)
    : ∃ error,
        lines.findSome? RunError.ofLine? = some error
        ∧ error.line ≤ n
        ∧ (error = ⟨n, .form fault⟩ ↔ ¬ UnknownColorBefore lines n) := by
  rw [List.head?_filterMap] at first
  obtain ⟨before, line, after, rfl, here, formed⟩ := List.findSome?_eq_some_iff.mp first
  obtain ⟨-, -, smaller⟩ := List.pairwise_append.mp ordered
  obtain rfl : n = line.number := Violation.line_of_ofLine? here
  rw [List.findSome?_append]
  cases sooner : before.findSome? RunError.ofLine? with
  | none =>
      refine ⟨⟨line.number, .form fault⟩, ?_, Nat.le_refl _, ?_⟩
      · rw [Option.none_or, List.findSome?_cons, Violation.ofLine?_eq_some.mp here]
      · simp only [true_iff]
        rintro ⟨other, member, less, name, unknown⟩
        have inside := mem_before_of_lt ordered member less
        have fails : RunError.ofLine? other = some ⟨other.number, .unknownColor name⟩ :=
          RunError.ofLine?_eq_some.mpr ⟨rfl, Fault.ofLine?_eq_unknownColor.mpr unknown⟩
        rw [List.findSome?_eq_none_iff.mp sooner other inside] at fails
        cases fails
  | some error =>
      -- The line that fails sooner has no violation, so it asks for an unknown color.
      obtain ⟨start, other, rest, rfl, fails, -⟩ := List.findSome?_eq_some_iff.mp sooner
      have inside : other ∈ start ++ other :: rest := by simp
      obtain ⟨name, rfl⟩ := RunError.unknownColor_of_wellFormed fails (formed other inside)
      have less : other.number < line.number := smaller other inside line (by simp)
      refine ⟨⟨other.number, .unknownColor name⟩, Option.some_or, Nat.le_of_lt less, ?_⟩
      have unknown := Fault.ofLine?_eq_unknownColor.mp (RunError.ofLine?_eq_some.mp fails).2
      constructor
      · intro same
        cases (RunError.mk.inj same).2
      · intro absent
        exact absurd ⟨other, by simp, less, name, unknown⟩ absent

/-- Well-formed lines fail, if at all, by an unknown color. -/
theorem error_of_wellFormed (formed : lines.filterMap Violation.ofLine? = [])
    : lines.findSome? RunError.ofLine? = none
      ∨ ∃ n name, lines.findSome? RunError.ofLine? = some ⟨n, .unknownColor name⟩ := by
  cases first : lines.findSome? RunError.ofLine? with
  | none => exact Or.inl rfl
  | some error =>
      obtain ⟨before, line, after, rfl, fails, -⟩ := List.findSome?_eq_some_iff.mp first
      have own := List.filterMap_eq_nil_iff.mp formed line (by simp)
      obtain ⟨name, rfl⟩ := RunError.unknownColor_of_wellFormed fails own
      exact Or.inr ⟨line.number, name, rfl⟩

end

-----------------------------------------------------------------------------------------
-- A run and a check of one program
-----------------------------------------------------------------------------------------

/-- A run and a check of one program agree on every plotter. A run that succeeds goes through all
of the lines checked, and all are well formed. A run that stops at a malformed line stops at the
first violation. A run that stops at an unknown color stops before every violation. Conversely,
the first violation is where the run stops unless an unknown color comes before it, and only an
unknown color stops a well-formed program.
-/
theorem Plotter.run_agrees_with_check {κ : Type u} [Canvas κ] (plotter : Plotter κ)
    (program : String)
    : let lines := Text.sourceLines program
      let result := (plotter.run program).result
      let report := FormReport.ofProgram program
      (result = .ok ()
          → report.isValid = true ∧ report.checked = plotter.reset.stepsTaken runLine lines)
      ∧ (∀ n fault,
          result = .error ⟨n, .form fault⟩ → report.violations.head? = some ⟨n, fault⟩)
      ∧ (∀ n name,
          result = .error ⟨n, .unknownColor name⟩
          → (∃ text,
              ⟨n, text⟩ ∈ lines
              ∧ Instruction.parse text = .ok (.setColor name)
              ∧ Color.ofName? name = none)
            ∧ ∀ violation ∈ report.violations, n < violation.line)
      ∧ (∀ n fault,
          report.violations.head? = some ⟨n, fault⟩
          → ∃ error,
              result = .error error
              ∧ error.line ≤ n
              ∧ (error = ⟨n, .form fault⟩ ↔ ¬ UnknownColorBefore lines n))
      ∧ (report.isValid = true
          → result = .ok () ∨ ∃ n name, result = .error ⟨n, .unknownColor name⟩) := by
  intro lines result report
  have ordered := Text.sourceLines_ordered program
  have same : result = Outcome.resultOf (lines.findSome? RunError.ofLine?) :=
    plotter.run_result program
  have valid : report.isValid = true ↔ lines.filterMap Violation.ofLine? = [] :=
    List.isEmpty_iff
  refine ⟨?_, ?_, ?_, ?_, ?_⟩
  · intro succeeded
    refine ⟨?_, (stepsTaken_of_ok succeeded).symm⟩
    rw [same, Outcome.resultOf_eq_ok] at succeeded
    exact valid.mpr (violations_eq_nil_of_no_error succeeded)
  · intro n fault failed
    rw [same, Outcome.resultOf_eq_error] at failed
    exact head?_violations_of_form failed
  · intro n name failed
    rw [same, Outcome.resultOf_eq_error] at failed
    exact violations_after_unknownColor ordered failed
  · intro n fault first
    obtain ⟨error, found, bound, there⟩ := error_of_first_violation ordered first
    exact ⟨error, same.trans (Outcome.resultOf_eq_error.mpr found), bound, there⟩
  · intro formed
    rcases error_of_wellFormed (valid.mp formed) with none | ⟨n, name, found⟩
    · exact Or.inl (same.trans (Outcome.resultOf_eq_ok.mpr none))
    · exact Or.inr ⟨n, name, same.trans (Outcome.resultOf_eq_error.mpr found)⟩

/-- Each way in which a run can end, and each report, on a program of its own. -/
theorem Plotter.run_agrees_with_check_samples
    : let fresh : Plotter Recording := ⟨{}, {}⟩
      let colored := "clear\n\ncolor red"
      let malformed := "clear\nbogus\nclear x"
      let colorless := "color puce\nbogus"
      ((fresh.run colored).result = .ok () ∧ (FormReport.ofProgram colored).isValid = true)
      ∧ ((fresh.run malformed).result = .error ⟨2, .form (.unknownCommand "bogus")⟩
        ∧ (FormReport.ofProgram malformed).violations.head?
          = some ⟨2, .unknownCommand "bogus"⟩)
      ∧ ((fresh.run colorless).result = .error ⟨1, .unknownColor "puce"⟩
        ∧ ∀ violation ∈ (FormReport.ofProgram colorless).violations, 1 < violation.line)
      ∧ ((FormReport.ofProgram colorless).violations.head? = some ⟨2, .unknownCommand "bogus"⟩
        ∧ ∃ error, (fresh.run colorless).result = .error error ∧ error.line ≤ 2)
      ∧ ((FormReport.ofProgram "color puce").isValid = true
        ∧ ((fresh.run "color puce").result = .ok ()
          ∨ ∃ n name, (fresh.run "color puce").result = .error ⟨n, .unknownColor name⟩)) := by
  intro fresh colored malformed colorless
  have runs : (fresh.run colored).result = .ok () := by
    subst fresh colored
    rfl
  have stops
      : (fresh.run malformed).result = .error ⟨2, .form (.unknownCommand "bogus")⟩ := by
    subst fresh malformed
    rfl
  have unknown : (fresh.run colorless).result = .error ⟨1, .unknownColor "puce"⟩ := by
    subst fresh colorless
    rfl
  have listed
      : (FormReport.ofProgram colorless).violations.head?
        = some ⟨2, .unknownCommand "bogus"⟩ := by
    subst colorless
    rfl
  have formed : (FormReport.ofProgram "color puce").isValid = true := by rfl
  obtain ⟨valid, -⟩ := (fresh.run_agrees_with_check colored).1 runs
  have first := (fresh.run_agrees_with_check malformed).2.1 _ _ stops
  have later := ((fresh.run_agrees_with_check colorless).2.2.1 _ _ unknown).2
  obtain ⟨error, failed, bound, -⟩ :=
    (fresh.run_agrees_with_check colorless).2.2.2.1 _ _ listed
  have last := (fresh.run_agrees_with_check "color puce").2.2.2.2 formed
  exact ⟨⟨runs, valid⟩, ⟨stops, first⟩, ⟨unknown, later⟩,
    ⟨listed, error, failed, bound⟩, formed, last⟩

end PenPlotter
