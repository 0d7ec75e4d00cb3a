import Mathlib.Data.List.Forall2

/-!
Which bytes are the UTF-8 of a text. The bytes of a character are told by the ranges that its first
byte and those after it lie in. The ranges leave out the long ways to write a character, the halves
of surrogate pairs and all that lies above the last code point, so that there is one way to write
each character and only characters can be written.
-/

namespace PenPlotter.Utf8

/-- The range of a byte that continues a character. -/
def follower : Nat × Nat :=
  (0x80, 0xBF)

/-- The ranges of the bytes of a character, by the range of its first byte. -/
def rows : List (List (Nat × Nat)) :=
  [[(0x00, 0x7F)],
    [(0xC2, 0xDF), follower],
    [(0xE0, 0xE0), (0xA0, 0xBF), follower],
    [(0xE1, 0xEC), follower, follower],
    [(0xED, 0xED), (0x80, 0x9F), follower],
    [(0xEE, 0xEF), follower, follower],
    [(0xF0, 0xF0), (0x90, 0xBF), follower, follower],
    [(0xF1, 0xF3), follower, follower, follower],
    [(0xF4, 0xF4), (0x80, 0x8F), follower, follower]]

def Lies (range : Nat × Nat) (byte : UInt8) : Prop :=
  range.1 ≤ byte.toNat ∧ byte.toNat ≤ range.2

/-- Bytes that write one character. -/
def IsCharacter (bytes : List UInt8) : Prop :=
  ∃ row ∈ rows, List.Forall₂ Lies row bytes

/-- Bytes that write characters one after another, with none left over. -/
inductive WellFormed : List UInt8 → Prop where
  | nil : WellFormed []
  | append {first rest : List UInt8}
      : IsCharacter first → WellFormed rest → WellFormed (first ++ rest)

-----------------------------------------------------------------------------------------
-- One character
-----------------------------------------------------------------------------------------

theorem isCharacter_iff_rows {bytes : List UInt8}
    : IsCharacter bytes
      ↔ List.Forall₂ Lies [(0x00, 0x7F)] bytes
        ∨ List.Forall₂ Lies [(0xC2, 0xDF), follower] bytes
        ∨ List.Forall₂ Lies [(0xE0, 0xE0), (0xA0, 0xBF), follower] bytes
        ∨ List.Forall₂ Lies [(0xE1, 0xEC), follower, follower] bytes
        ∨ List.Forall₂ Lies [(0xED, 0xED), (0x80, 0x9F), follower] bytes
        ∨ List.Forall₂ Lies [(0xEE, 0xEF), follower, follower] bytes
        ∨ List.Forall₂ Lies [(0xF0, 0xF0), (0x90, 0xBF), follower, follower] bytes
        ∨ List.Forall₂ Lies [(0xF1, 0xF3), follower, follower, follower] bytes
        ∨ List.Forall₂ Lies [(0xF4, 0xF4), (0x80, 0x8F), follower, follower] bytes := by
  simp only [IsCharacter, rows, List.mem_cons, List.not_mem_nil, or_false, exists_eq_or_imp,
    exists_eq_left]

/-- The bytes of every character lie in the ranges of a row, by cases on how many there are. -/
theorem isCharacter_encode (char : Char) : IsCharacter (String.utf8EncodeChar char) := by
  have valid := char.valid
  simp only [UInt32.isValidChar, Nat.isValidChar] at valid
  rw [String.utf8EncodeChar, isCharacter_iff_rows]
  generalize char.val.toNat = v at valid
  split
  · simp [Lies]
    omega
  split
  · simp [Lies, follower]
    omega
  split
  · simp [Lies, follower]
    omega
  · simp [Lies, follower]
    omega

/-- Every code point but the halves of surrogate pairs is a character. -/
theorem exists_char {v : Nat} (valid : v.isValidChar) : ∃ char : Char, char.val.toNat = v :=
  ⟨Char.ofNatAux v valid, rfl⟩

theorem eq_ofNat {v : Nat} {byte : UInt8} (same : v = byte.toNat) : UInt8.ofNat v = byte := by
  rw [same, UInt8.ofNat_toNat]

variable {a b c d : UInt8}

theorem exists_encode_one (least : Lies (0x00, 0x7F) a)
    : ∃ char, String.utf8EncodeChar char = [a] := by
  simp only [Lies] at least
  obtain ⟨char, code⟩ := exists_char (v := a.toNat) (by simp only [Nat.isValidChar]; omega)
  refine ⟨char, ?_⟩
  simp only [String.utf8EncodeChar, code]
  rw [if_pos (by omega), UInt8.ofNat_toNat]

theorem exists_encode_two (lead : Lies (0xC2, 0xDF) a) (next : Lies follower b)
    : ∃ char, String.utf8EncodeChar char = [a, b] := by
  simp only [Lies, follower] at lead next
  obtain ⟨char, code⟩ := exists_char (v := a.toNat % 32 * 64 + b.toNat % 64)
    (by simp only [Nat.isValidChar]; omega)
  refine ⟨char, ?_⟩
  simp only [String.utf8EncodeChar, code]
  rw [if_neg (by omega), if_pos (by omega)]
  simp only [List.cons.injEq, and_true]
  refine ⟨eq_ofNat ?_, eq_ofNat ?_⟩ <;> omega

/-- Three bytes write a character unless two would do or the character is half a pair. -/
theorem exists_encode_three (lead : Lies (0xE0, 0xEF) a) (next : Lies follower b)
    (last : Lies follower c) (long : a.toNat = 0xE0 → 0xA0 ≤ b.toNat)
    (whole : a.toNat = 0xED → b.toNat ≤ 0x9F)
    : ∃ char, String.utf8EncodeChar char = [a, b, c] := by
  simp only [Lies, follower] at lead next last
  obtain ⟨char, code⟩ := exists_char
    (v := a.toNat % 16 * 4096 + b.toNat % 64 * 64 + c.toNat % 64)
    (by simp only [Nat.isValidChar]; omega)
  refine ⟨char, ?_⟩
  simp only [String.utf8EncodeChar, code]
  rw [if_neg (by omega), if_neg (by omega), if_pos (by omega)]
  simp only [List.cons.injEq, and_true]
  refine ⟨eq_ofNat ?_, eq_ofNat ?_, eq_ofNat ?_⟩ <;> omega

/-- Four bytes write a character unless three would do or it would lie above the last one. -/
theorem exists_encode_four (lead : Lies (0xF0, 0xF4) a) (next : Lies follower b)
    (third : Lies follower c) (last : Lies follower d) (long : a.toNat = 0xF0 → 0x90 ≤ b.toNat)
    (known : a.toNat = 0xF4 → b.toNat ≤ 0x8F)
    : ∃ char, String.utf8EncodeChar char = [a, b, c, d] := by
  simp only [Lies, follower] at lead next third last
  obtain ⟨char, code⟩ := exists_char
    (v := a.toNat % 8 * 262144 + b.toNat % 64 * 4096 + c.toNat % 64 * 64 + d.toNat % 64)
    (by simp only [Nat.isValidChar]; omega)
  refine ⟨char, ?_⟩
  simp only [String.utf8EncodeChar, code]
  rw [if_neg (by omega), if_neg (by omega), if_neg (by omega)]
  simp only [List.cons.injEq, and_true]
  refine ⟨eq_ofNat ?_, eq_ofNat ?_, eq_ofNat ?_, eq_ofNat ?_⟩ <;> omega

/-- Bytes in the ranges of a row write a character, by cases on the rows. -/
theorem exists_encode {bytes : List UInt8} (character : IsCharacter bytes)
    : ∃ char, String.utf8EncodeChar char = bytes := by
  simp only [isCharacter_iff_rows, List.forall₂_cons_left_iff, List.forall₂_nil_left_iff]
    at character
  rcases character with one | two | three | three | three | three | four | four | four
  · obtain ⟨a, _, least, rfl, rfl⟩ := one
    exact exists_encode_one least
  · obtain ⟨a, _, lead, ⟨b, _, next, rfl, rfl⟩, rfl⟩ := two
    exact exists_encode_two lead next
  iterate 4
    · obtain ⟨a, _, lead, ⟨b, _, next, ⟨c, _, last, rfl, rfl⟩, rfl⟩, rfl⟩ := three
      simp only [Lies, follower] at lead next
      exact exists_encode_three (by simp only [Lies]; omega) (by simp only [Lies, follower]; omega)
        last (by omega) (by omega)
  iterate 3
    · obtain ⟨a, _, lead, ⟨b, _, next, ⟨c, _, third, ⟨d, _, last, rfl, rfl⟩, rfl⟩, rfl⟩, rfl⟩ :=
        four
      simp only [Lies, follower] at lead next
      exact exists_encode_four (by simp only [Lies]; omega) (by simp only [Lies, follower]; omega)
        third last (by omega) (by omega)

-----------------------------------------------------------------------------------------
-- Texts
-----------------------------------------------------------------------------------------

/-- Bytes are well formed exactly when they are the bytes of some characters, by induction on the
bytes one way and on the characters the other.
-/
theorem wellFormed_iff {bytes : List UInt8}
    : WellFormed bytes ↔ ∃ chars : List Char, chars.flatMap String.utf8EncodeChar = bytes := by
  constructor
  · intro formed
    induction formed with
    | nil => exact ⟨[], rfl⟩
    | append character _ ih =>
        obtain ⟨char, rfl⟩ := exists_encode character
        obtain ⟨chars, rfl⟩ := ih
        exact ⟨char :: chars, List.flatMap_cons⟩
  · rintro ⟨chars, rfl⟩
    induction chars with
    | nil => exact .nil
    | cons char chars ih =>
        rw [List.flatMap_cons]
        exact .append (isCharacter_encode char) ih

/-- Bytes are well formed exactly when some text has them. -/
theorem wellFormed_iff_toUTF8 {bytes : List UInt8}
    : WellFormed bytes ↔ ∃ text : String, text.toUTF8 = bytes.toByteArray := by
  rw [wellFormed_iff]
  constructor
  · rintro ⟨chars, rfl⟩
    exact ⟨⟨chars.utf8Encode, .intro chars rfl⟩, rfl⟩
  · rintro ⟨text, same⟩
    obtain ⟨chars, encoded⟩ := text.isValidUTF8
    refine ⟨chars, List.toByteArray_inj.mp ?_⟩
    rw [← same, String.toUTF8_eq_toByteArray, encoded, List.utf8Encode]

/-- Bytes are read as a text exactly when it has those bytes. -/
theorem fromUTF8?_eq_some_iff {content : ByteArray} {text : String}
    : String.fromUTF8? content = some text ↔ text.toUTF8 = content := by
  rw [String.fromUTF8?, String.toUTF8_eq_toByteArray]
  constructor
  · intro read
    split at read
    next => rw [← Option.some.inj read, String.fromUTF8]
    next => cases read
  · rintro rfl
    rw [dif_pos text.isValidUTF8, String.fromUTF8]

end PenPlotter.Utf8
