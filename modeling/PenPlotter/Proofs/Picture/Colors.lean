import PenPlotter.Language.Argument
import PenPlotter.Proofs.Text.Parts
import PenPlotter.Proofs.Text.Words
import PenPlotter.Picture.Color

/-!
The texts of colors. A color of the table is written with its first name, which is a word of small
letters and names it again. Any other color is written after a number sign, digit by digit. So no
two colors have the same text, though some have two names.
-/

namespace PenPlotter.Color

variable {color other : Color}

-----------------------------------------------------------------------------------------
-- Colors of the table
-----------------------------------------------------------------------------------------

theorem mem_table_of_ofName? {name : String} (known : ofName? name = some color)
    : color ∈ table.map Prod.snd := by
  obtain ⟨entry, found, rfl⟩ := Option.map_eq_some_iff.mp known
  exact List.mem_map_of_mem (List.mem_of_find?_eq_some found)

/-- The first name of a color is a single word, of letters in lower case, and names that color
again. By cases on the entries of the table.
-/
theorem text_of_mem_table (known : color ∈ table.map Prod.snd)
    : Text.words color.text = [color.text]
      ∧ Argument.colorName? color.text = some color.text
      ∧ ofName? color.text = some color := by
  revert color
  decide +kernel

theorem head?_text_of_mem_table (known : color ∈ table.map Prod.snd)
    : color.text.toList.head? ≠ some '#' := by
  revert color
  decide +kernel

/-- A color that is not in the table has no name. -/
theorem text_of_not_mem_table (unknown : color ∉ table.map Prod.snd)
    : color.text
      = "#" ++ (channelText color.red ++ (channelText color.green ++ channelText color.blue)) := by
  have nameless : color.name? = none := by
    rw [name?, Option.map_eq_none_iff, List.find?_eq_none]
    rintro entry member same
    exact unknown (of_decide_eq_true same ▸ List.mem_map_of_mem member)
  rw [text, nameless, Option.getD_none, String.append_assoc, String.append_assoc]

-----------------------------------------------------------------------------------------
-- Colors in digits
-----------------------------------------------------------------------------------------

theorem digitChar_inj : ∀ m < 16, ∀ n < 16, Nat.digitChar m = Nat.digitChar n → m = n := by
  decide

theorem digitChar_ne_space : ∀ n < 16, Nat.digitChar n ≠ ' ' := by
  decide

/-- A channel ends after two digits. -/
theorem channelText_append_inj {channel more : UInt8} {right rest : String}
    : channelText channel ++ right = channelText more ++ rest
      ↔ channel = more ∧ right = rest := by
  constructor
  · intro same
    have digits := congrArg String.toList same
    simp only [channelText, String.toList_append, String.toList_ofList, List.cons_append,
      List.nil_append, List.cons.injEq, String.toList_inj] at digits
    obtain ⟨first, second, rests⟩ := digits
    have high := digitChar_inj _ (by have := channel.toNat_lt; omega) _
      (by have := more.toNat_lt; omega) first
    have low := digitChar_inj _ (Nat.mod_lt _ (by decide)) _ (Nat.mod_lt _ (by decide)) second
    exact ⟨UInt8.toNat_inj.mp (by omega), rests⟩
  · rintro ⟨rfl, rfl⟩
    rfl

theorem channelText_injective : Function.Injective channelText := by
  intro channel more same
  have ended : channelText channel ++ "" = channelText more ++ "" := by rw [same]
  exact (channelText_append_inj.mp ended).1

theorem space_not_mem_channelText (channel : UInt8) : ' ' ∉ (channelText channel).toList := by
  have bound := channel.toNat_lt
  rw [channelText, String.toList_ofList]
  simp only [List.mem_cons, List.not_mem_nil, or_false, not_or]
  exact ⟨(digitChar_ne_space _ (by omega)).symm, (digitChar_ne_space _ (by omega)).symm⟩

theorem text_ne_of_mem_table (known : color ∈ table.map Prod.snd)
    (unknown : other ∉ table.map Prod.snd)
    : color.text ≠ other.text := by
  intro same
  apply head?_text_of_mem_table known
  rw [same, text_of_not_mem_table unknown]
  exact Text.head?_append rfl

/-- No two colors have the same text. By cases on which of them the table has. -/
theorem text_injective : Function.Injective text := by
  intro color other same
  by_cases known : color ∈ table.map Prod.snd <;> by_cases too : other ∈ table.map Prod.snd
  · have named := (text_of_mem_table known).2.2
    rw [same, (text_of_mem_table too).2.2] at named
    exact (Option.some.inj named).symm
  · exact absurd same (text_ne_of_mem_table known too)
  · exact absurd same.symm (text_ne_of_mem_table too known)
  · rw [text_of_not_mem_table known, text_of_not_mem_table too, String.append_right_inj,
      channelText_append_inj, channelText_append_inj, channelText_injective.eq_iff] at same
    obtain ⟨_, _, _⟩ := color
    obtain ⟨_, _, _⟩ := other
    obtain ⟨rfl, rfl, rfl⟩ := same
    rfl

/-- The text of a color is one word. -/
theorem space_not_mem_text (color : Color) : ' ' ∉ color.text.toList := by
  by_cases known : color ∈ table.map Prod.snd
  · obtain ⟨single, -, -⟩ := text_of_mem_table known
    exact Text.not_mem_of_words_eq_singleton single (by decide)
  · rw [text_of_not_mem_table known]
    simp only [String.toList_append, List.mem_append, not_or]
    exact ⟨by decide, space_not_mem_channelText _, space_not_mem_channelText _,
      space_not_mem_channelText _⟩

end PenPlotter.Color
