import Mathlib
import PenPlotter.Text.Case

/-!
Texts that agree up to the case of ASCII letters, told letter by letter. Making the capitals
small decides this agreement, and gives the one text among those that agree that has no capital.
-/

namespace PenPlotter.Text

/-- A capital letter of ASCII stands thirty-two code points before its small letter. -/
def IsCapitalOf (capital small : Char) : Prop :=
  capital.isUpper = true ∧ small.toNat = capital.toNat + 32

/-- Two characters are equal, or one is the capital of the other. -/
def SameLetter (c d : Char) : Prop :=
  c = d ∨ IsCapitalOf c d ∨ IsCapitalOf d c

/-- Two texts agree character by character but for the case of ASCII letters. -/
def AlikeButForCase (left right : String) : Prop :=
  List.Forall₂ SameLetter left.toList right.toList

theorem isUpper_iff {c : Char} : c.isUpper = true ↔ 65 ≤ c.toNat ∧ c.toNat ≤ 90 := by
  simp only [Char.isUpper, decide_eq_true_eq, ge_iff_le, UInt32.le_iff_toNat_le]
  rfl

theorem toNat_toLower (c : Char)
    : c.toLower.toNat = if c.isUpper then c.toNat + 32 else c.toNat := by
  split
  next capital =>
    have range := isUpper_iff.mp capital
    have valid : (c.toNat + 32).isValidChar := by omega
    rw [Char.toLower_eq_of_isUpper capital, Char.toNat_ofNat, if_pos valid]
  next small => rw [Char.toLower_eq_of_not_isUpper small]

/-- Small letters agree when the characters are the same letter, by the ranges of capitals. -/
theorem toLower_eq_toLower_iff {c d : Char} : c.toLower = d.toLower ↔ SameLetter c d := by
  rw [← Char.toNat_inj, toNat_toLower, toNat_toLower, SameLetter, IsCapitalOf, IsCapitalOf,
    ← Char.toNat_inj]
  simp only [isUpper_iff]
  split <;> split <;> omega

theorem toLower_eq_self_iff {c : Char} : c.toLower = c ↔ c.isUpper = false := by
  rw [← Char.toNat_inj, toNat_toLower]
  cases c.isUpper <;> simp

theorem toList_foldCase (text : String)
    : (foldCase text).toList = text.toList.map Char.toLower := by
  simp [foldCase]

/-- Folding makes equal exactly those texts that agree up to case. -/
theorem foldCase_eq_foldCase_iff {left right : String}
    : foldCase left = foldCase right ↔ AlikeButForCase left right := by
  rw [← String.toList_inj, toList_foldCase, toList_foldCase, AlikeButForCase,
    ← List.forall₂_eq_eq_eq, List.forall₂_map_left_iff, List.forall₂_map_right_iff]
  simp only [toLower_eq_toLower_iff]

theorem spelledAlike_iff {left right : String}
    : spelledAlike left right = true ↔ AlikeButForCase left right := by
  rw [spelledAlike, beq_iff_eq, foldCase_eq_foldCase_iff]

theorem foldCase_eq_self_iff {text : String}
    : foldCase text = text ↔ ∀ c ∈ text.toList, c.isUpper = false := by
  rw [← String.toList_inj, toList_foldCase]
  nth_rewrite 2 [← List.map_id text.toList]
  simp only [List.map_inj_left, id, toLower_eq_self_iff]

theorem foldCase_foldCase (text : String) : foldCase (foldCase text) = foldCase text := by
  rw [foldCase_eq_self_iff, toList_foldCase]
  simp only [List.forall_mem_map]
  exact fun c _ => c.isUpper_toLower_eq_false

/-- What a text folds to is the one text that agrees with it and has no capitals. -/
theorem foldCase_eq_iff {text small : String}
    : foldCase text = small
      ↔ AlikeButForCase text small ∧ ∀ c ∈ small.toList, c.isUpper = false := by
  rw [← foldCase_eq_foldCase_iff, ← foldCase_eq_self_iff]
  constructor
  · intro same
    subst same
    exact ⟨(foldCase_foldCase text).symm, foldCase_foldCase text⟩
  · intro h
    exact h.1.trans h.2

end PenPlotter.Text
