import Mathlib.Data.List.Forall2
import PenPlotter.Language.Plotter

/-!
Steps in a row. A row goes on while its steps succeed, so its outcome is that of the first step
that fails, taken from where the steps before it led.
-/

namespace PenPlotter

universe u

variable {κ : Type u} {α ε δ : Type}

-----------------------------------------------------------------------------------------
-- One attempt after another
-----------------------------------------------------------------------------------------

namespace Outcome

theorem andThen_of_ok {outcome : Outcome κ ε} (succeeded : outcome.result = .ok ())
    (next : Plotter κ → Outcome κ ε)
    : outcome.andThen next = next outcome.plotter := by
  simp only [andThen, succeeded]

theorem andThen_of_error {outcome : Outcome κ ε} {fault : ε}
    (failed : outcome.result = .error fault) (next : Plotter κ → Outcome κ ε)
    : outcome.andThen next = outcome := by
  simp only [andThen, failed]

/-- A result is a success or tells its fault, by cases on it. -/
theorem result_cases (outcome : Outcome κ ε)
    : outcome.result = .ok () ∨ ∃ fault, outcome.result = .error fault := by
  cases known : outcome.result with
  | ok _ => exact Or.inl rfl
  | error fault => exact Or.inr ⟨fault, rfl⟩

/-- Going on twice is going on with the two together, by cases on the first result. -/
theorem andThen_assoc (outcome : Outcome κ ε) (next last : Plotter κ → Outcome κ ε)
    : (outcome.andThen next).andThen last
      = outcome.andThen fun plotter => (next plotter).andThen last := by
  rcases outcome.result_cases with succeeded | ⟨fault, failed⟩
  · simp only [andThen_of_ok succeeded]
  · simp only [andThen_of_error failed]

theorem mapError_plotter (outcome : Outcome κ ε) (describe : ε → δ)
    : (outcome.mapError describe).plotter = outcome.plotter :=
  rfl

theorem mapError_of_ok {outcome : Outcome κ ε} (succeeded : outcome.result = .ok ())
    (describe : ε → δ)
    : outcome.mapError describe = ⟨outcome.plotter, .ok ()⟩ := by
  rw [mapError, succeeded]
  rfl

theorem mapError_of_error {outcome : Outcome κ ε} {fault : ε}
    (failed : outcome.result = .error fault) (describe : ε → δ)
    : outcome.mapError describe = ⟨outcome.plotter, .error (describe fault)⟩ := by
  rw [mapError, failed]
  rfl

/-- Telling a fault twice is telling it the second way of the first, by cases on the result. -/
theorem mapError_mapError {ζ : Type} (outcome : Outcome κ ε) (describe : ε → δ) (again : δ → ζ)
    : (outcome.mapError describe).mapError again
      = outcome.mapError fun fault => again (describe fault) := by
  rcases outcome.result_cases with succeeded | ⟨fault, failed⟩
  · rw [mapError_of_ok succeeded, mapError_of_ok succeeded, mapError_of_ok rfl]
  · rw [mapError_of_error failed, mapError_of_error failed, mapError_of_error rfl]

theorem mapError_id (outcome : Outcome κ ε) : (outcome.mapError fun fault => fault) = outcome := by
  obtain ⟨plotter, result⟩ := outcome
  cases result <;> rfl

/-- Going on can wait for the telling of a fault, by cases on the result. -/
theorem andThen_mapError {outcome : Outcome κ δ} {describe : δ → ε}
    {next : Plotter κ → Outcome κ ε} {other : Plotter κ → Outcome κ δ}
    (same : ∀ plotter, next plotter = (other plotter).mapError describe)
    : (outcome.mapError describe).andThen next = (outcome.andThen other).mapError describe := by
  rcases outcome.result_cases with succeeded | ⟨fault, failed⟩
  · rw [mapError_of_ok succeeded, andThen_of_ok rfl, andThen_of_ok succeeded, same]
  · rw [andThen_of_error failed, mapError_of_error failed, andThen_of_error rfl]

/-- A fault told in another way was a fault before, by cases on the result. -/
theorem exists_of_mapError_error {outcome : Outcome κ ε} {describe : ε → δ} {told : δ}
    (failed : (outcome.mapError describe).result = .error told)
    : ∃ fault, outcome.result = .error fault ∧ describe fault = told := by
  rcases outcome.result_cases with succeeded | ⟨fault, first⟩
  · rw [mapError_of_ok succeeded] at failed
    cases failed
  · rw [mapError_of_error first] at failed
    exact ⟨fault, first, Except.error.inj failed⟩

/-- Attempts that are the same once their faults are told left the same plotter, and both
succeeded or both failed. By cases on both results.
-/
theorem eq_of_mapError_eq {outcome other : Outcome κ ε} {describe : ε → δ}
    (same : outcome.mapError describe = other.mapError describe)
    : outcome.plotter = other.plotter
      ∧ ((outcome.result = .ok () ∧ other.result = .ok ())
        ∨ ∃ fault counterpart,
            outcome.result = .error fault
            ∧ other.result = .error counterpart
            ∧ describe fault = describe counterpart) := by
  have plotters := congrArg Outcome.plotter same
  have results := congrArg Outcome.result same
  refine ⟨plotters, ?_⟩
  rcases outcome.result_cases with succeeded | ⟨fault, failed⟩
  · rcases other.result_cases with alike | ⟨counterpart, unlike⟩
    · exact Or.inl ⟨succeeded, alike⟩
    · rw [mapError_of_ok succeeded, mapError_of_error unlike] at results
      cases results
  · rcases other.result_cases with unlike | ⟨counterpart, alike⟩
    · rw [mapError_of_error failed, mapError_of_ok unlike] at results
      cases results
    · rw [mapError_of_error failed, mapError_of_error alike] at results
      exact Or.inr ⟨fault, counterpart, failed, alike, Except.error.inj results⟩

/-- The result that a possible fault amounts to. -/
def resultOf : Option ε → Except ε Unit
  | none => .ok ()
  | some fault => .error fault

theorem resultOf_eq_ok {fault? : Option ε}
    : resultOf fault? = .ok () ↔ fault? = none := by
  cases fault? <;> simp [resultOf]

theorem resultOf_eq_error {fault? : Option ε} {fault : ε}
    : resultOf fault? = .error fault ↔ fault? = some fault := by
  cases fault? <;> simp [resultOf]

/-- A known fault told in another way is known as told, by cases on it. -/
theorem mapError_result {outcome : Outcome κ ε} {fault? : Option ε}
    (known : outcome.result = resultOf fault?) (describe : ε → δ)
    : (outcome.mapError describe).result = resultOf (fault?.map describe) := by
  cases fault? with
  | none => rw [mapError_of_ok known, Option.map_none, resultOf]
  | some fault => rw [mapError_of_error known, Option.map_some, resultOf]

end Outcome

-----------------------------------------------------------------------------------------
-- Rows of steps
-----------------------------------------------------------------------------------------

namespace Plotter

open Outcome

variable {step : Plotter κ → α → Outcome κ ε}

@[simp]
theorem each_nil (plotter : Plotter κ) : plotter.each step [] = ⟨plotter, .ok ()⟩ :=
  rfl

theorem each_cons (plotter : Plotter κ) (item : α) (items : List α)
    : plotter.each step (item :: items)
      = (step plotter item).andThen fun next => next.each step items :=
  rfl

/-- A row that succeeds starts with a step that succeeds, and its rest goes on from there. -/
theorem each_cons_of_ok {plotter : Plotter κ} {item : α} {items : List α}
    (succeeded : (plotter.each step (item :: items)).result = .ok ())
    : (step plotter item).result = .ok ()
      ∧ plotter.each step (item :: items) = (step plotter item).plotter.each step items := by
  rw [each_cons] at succeeded ⊢
  rcases (step plotter item).result_cases with first | ⟨fault, failed⟩
  · exact ⟨first, andThen_of_ok first _⟩
  · rw [andThen_of_error failed, failed] at succeeded
    cases succeeded

/-- A row goes on from where its first part led, by induction on the first part. -/
theorem each_append (plotter : Plotter κ) (items more : List α)
    : plotter.each step (items ++ more)
      = (plotter.each step items).andThen fun next => next.each step more := by
  induction items generalizing plotter with
  | nil => rfl
  | cons item items ih =>
      rw [List.cons_append, each_cons, each_cons, andThen_assoc]
      simp only [ih]

/-- A row that fails has a first step that fails: the steps before it succeed, and the row comes
to what that step comes to. By induction on the items.
-/
theorem each_first_failure {plotter : Plotter κ} {items : List α} {fault : ε}
    (failed : (plotter.each step items).result = .error fault)
    : ∃ before item after,
        items = before ++ item :: after
        ∧ (plotter.each step before).result = .ok ()
        ∧ plotter.each step items = step (plotter.each step before).plotter item := by
  induction items generalizing plotter with
  | nil => cases failed
  | cons item items ih =>
      rcases (step plotter item).result_cases with succeeded | ⟨first, here⟩
      · rw [each_cons, andThen_of_ok succeeded] at failed ⊢
        obtain ⟨before, culprit, after, rfl, passed, same⟩ := ih failed
        refine ⟨item :: before, culprit, after, rfl, ?_, ?_⟩
        · rw [each_cons, andThen_of_ok succeeded, passed]
        · rw [each_cons, andThen_of_ok succeeded, same]
      · refine ⟨[], item, items, rfl, rfl, ?_⟩
        rw [each_cons, andThen_of_error here, each_nil]

/-- When the fault of a step depends on its item alone, a row fails with the first fault among
its items, by induction on them.
-/
theorem each_result {fault? : α → Option ε}
    (known : ∀ plotter item, (step plotter item).result = resultOf (fault? item))
    (plotter : Plotter κ) (items : List α)
    : (plotter.each step items).result = resultOf (items.findSome? fault?) := by
  induction items generalizing plotter with
  | nil => rfl
  | cons item items ih =>
      have here := known plotter item
      rw [each_cons, List.findSome?_cons]
      cases fault : fault? item with
      | none =>
          rw [fault] at here
          rw [andThen_of_ok here, ih]
      | some fault =>
          rw [fault] at here
          rw [andThen_of_error here, here]

/-- Rows side by side come to the same, up to how faults are told, when steps on items that stand
at the same place do. By induction on the rows.
-/
theorem each_eq_mapError {β : Type} {other : Plotter κ → β → Outcome κ δ} {describe : δ → ε}
    {alike : α → β → Prop}
    (same
      : ∀ plotter item counterpart,
          alike item counterpart
          → step plotter item = (other plotter counterpart).mapError describe)
    {items : List α} {counterparts : List β} (rows : List.Forall₂ alike items counterparts)
    (plotter : Plotter κ)
    : plotter.each step items = (plotter.each other counterparts).mapError describe := by
  induction rows generalizing plotter with
  | nil => rfl
  | cons here _ ih =>
      rw [each_cons, each_cons, same plotter _ _ here]
      exact andThen_mapError ih

/-- A row of changed items comes to what the row of the items does, up to how faults are told. -/
theorem each_map {β : Type} {other : Plotter κ → β → Outcome κ δ} {describe : δ → ε}
    {change : β → α}
    (same
      : ∀ plotter item,
          step plotter (change item) = (other plotter item).mapError describe)
    (plotter : Plotter κ) (items : List β)
    : plotter.each step (items.map change) = (plotter.each other items).mapError describe := by
  have rows
      : List.Forall₂ (fun item counterpart => item = change counterpart) (items.map change)
        items := by
    rw [List.forall₂_map_left_iff]
    exact List.forall₂_same.mpr fun _ _ => rfl
  apply each_eq_mapError ?_ rows
  rintro plotter _ item rfl
  exact same plotter item

/-- How many steps of a row are taken before one fails. -/
def stepsTaken (step : Plotter κ → α → Outcome κ ε) (plotter : Plotter κ) : List α → Nat
  | [] => 0
  | item :: items =>
      match (step plotter item).result with
      | .ok () => stepsTaken step (step plotter item).plotter items + 1
      | .error _ => 0

/-- A row that succeeds takes all of its steps, by induction on the items. -/
theorem stepsTaken_of_ok {plotter : Plotter κ} {items : List α}
    (succeeded : (plotter.each step items).result = .ok ())
    : plotter.stepsTaken step items = items.length := by
  induction items generalizing plotter with
  | nil => rfl
  | cons item items ih =>
      obtain ⟨first, rest⟩ := each_cons_of_ok succeeded
      rw [rest] at succeeded
      simp only [stepsTaken, first, ih succeeded, List.length_cons]

end Plotter

end PenPlotter
