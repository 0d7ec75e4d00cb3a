import Mathlib.Data.List.TakeWhile

/-!
Texts in two parts. Where the second part begins with a character that the first does not hold, the
two can be told apart, so that such texts are equal only part by part.
-/

namespace PenPlotter.Text

variable {c : Char} {left other right more : String}

/-- The first part of a text can be told when the second begins with a character that the first does
not hold.
-/
theorem takeWhile_append (absent : c ∉ left.toList) (starts : right.toList.head? = some c)
    : (left ++ right).toList.takeWhile (· != c) = left.toList := by
  obtain ⟨rest, split⟩ := List.head?_eq_some_iff.mp starts
  have apart : ∀ d ∈ left.toList, (d != c) = true := by
    intro d member
    exact bne_iff_ne.mpr fun same => absent (same ▸ member)
  rw [String.toList_append, split, List.takeWhile_append_of_pos apart,
    List.takeWhile_cons_of_neg (by simp), List.append_nil]

theorem head?_append (starts : left.toList.head? = some c)
    : (left ++ right).toList.head? = some c := by
  rw [String.toList_append, List.head?_append, starts]
  rfl

/-- Texts whose second parts begin at the first place of a character are equal part by part. -/
theorem append_inj_of_absent (absent : c ∉ left.toList) (starts : right.toList.head? = some c)
    (absentToo : c ∉ other.toList) (startsToo : more.toList.head? = some c)
    : left ++ right = other ++ more ↔ left = other ∧ right = more := by
  constructor
  · intro same
    have first : left = other := by
      rw [← String.toList_inj, ← takeWhile_append absent starts, same,
        takeWhile_append absentToo startsToo]
    subst first
    exact ⟨rfl, (String.append_right_inj left).mp same⟩
  · rintro ⟨rfl, rfl⟩
    rfl

end PenPlotter.Text
