import PenPlotter.Text.Lines

/-!
The lines of a program are the pieces between its line feeds. A line ending can add a carriage
return to a line, or an empty piece after the last one; both are blank, so neither changes a
line that holds anything or its number.
-/

namespace PenPlotter.Text

-----------------------------------------------------------------------------------------
-- Pieces and their joining
-----------------------------------------------------------------------------------------

/-- Pieces are what the standard library splits a list into, by induction on the list. -/
theorem pieces_eq_splitOn (separator : Char) (chars : List Char)
    : pieces separator chars = chars.splitOn separator := by
  induction chars with
  | nil => rfl
  | cons c rest ih =>
      rw [pieces, List.splitOn_cons_eq_if_modifyHead, ← ih]
      simp only [beq_iff_eq]
      split
      · rfl
      · cases pieces_eq : pieces separator rest with
        | nil => exact absurd pieces_eq (pieces_ne_nil separator rest)
        | cons piece more => rfl

/-- No piece holds the separator, by induction on the text. -/
theorem not_mem_of_mem_pieces {separator : Char} {chars piece : List Char}
    (member : piece ∈ pieces separator chars)
    : separator ∉ piece := by
  induction chars generalizing piece with
  | nil => simp_all [pieces]
  | cons c rest ih =>
      rw [pieces] at member
      split at member
      · rcases List.mem_cons.mp member with rfl | member
        · simp
        · exact ih member
      · rename_i other
        cases split : pieces separator rest with
        | nil => exact absurd split (pieces_ne_nil separator rest)
        | cons first more =>
            rw [split] at ih member
            rcases List.mem_cons.mp member with rfl | member
            · simpa [Ne.symm other] using ih List.mem_cons_self
            · exact ih (List.mem_cons_of_mem _ member)

/-- The pieces of two texts with a separator between them are those of the one and the other. -/
theorem pieces_append_cons (separator : Char) (left right : List Char)
    : pieces separator (left ++ separator :: right)
      = pieces separator left ++ pieces separator right := by
  simp only [pieces_eq_splitOn]
  exact List.splitOnP_append_cons left right (beq_self_eq_true separator)

/-- There is one more piece than there are separators, by induction on the text. -/
theorem length_pieces (separator : Char) (chars : List Char)
    : (pieces separator chars).length = chars.count separator + 1 := by
  induction chars with
  | nil => rfl
  | cons c rest ih =>
      rw [pieces, List.count_cons]
      split
      next same => simp [ih, same]
      next other =>
        cases split : pieces separator rest with
        | nil => exact absurd split (pieces_ne_nil separator rest)
        | cons first more => simpa [split, joinFirst, other] using ih

/-- The pieces of a text between its line feeds, blank ones included. -/
def rawLines (text : String) : List String :=
  (pieces '\n' text.toList).map String.ofList

/-- The text of lines with a line feed between each and the next. -/
def joinLines (lines : List String) : String :=
  "\n".intercalate lines

theorem not_mem_of_mem_rawLines {text line : String} (member : line ∈ rawLines text)
    : '\n' ∉ line.toList := by
  obtain ⟨piece, known, rfl⟩ := List.mem_map.mp member
  simpa using not_mem_of_mem_pieces known

/-- Joined lines split into themselves, when there are any and none holds a line feed. -/
theorem rawLines_joinLines {lines : List String} (nonempty : lines ≠ [])
    (single : ∀ line ∈ lines, '\n' ∉ line.toList)
    : rawLines (joinLines lines) = lines := by
  have characters
      : pieces '\n' (joinLines lines).toList = lines.map String.toList := by
    rw [pieces_eq_splitOn, joinLines, String.toList_intercalate]
    exact List.splitOn_intercalate '\n' (by simpa using single) (by simpa using nonempty)
  simp [rawLines, characters]

-----------------------------------------------------------------------------------------
-- Trimming and numbering
-----------------------------------------------------------------------------------------

/-- A blank at the end is trimmed away, whether or not anything else is left. -/
theorem trimChars_append_blank (chars : List Char) {c : Char} (blank : isBlank c = true)
    : trimChars (chars ++ [c]) = trimChars chars := by
  unfold trimChars
  rw [List.dropWhile_append]
  split
  next empty => simp [List.isEmpty_iff.mp empty, blank]
  next => simp [blank]

theorem trim_ofList (chars : List Char)
    : trim (String.ofList chars) = String.ofList (trimChars chars) := by
  simp [trim]

@[simp]
theorem numberLines_nil (first : Nat) : numberLines first [] = [] :=
  rfl

/-- The first line takes the first number, and is kept when something is left of it. -/
theorem numberLines_cons (first : Nat) (line : List Char) (lines : List (List Char))
    : numberLines first (line :: lines)
      = if trimChars line = [] then numberLines (first + 1) lines
        else ⟨first, String.ofList (trimChars line)⟩ :: numberLines (first + 1) lines := by
  simp only [numberLines, List.zipIdx_cons, List.map_cons, List.filter_cons, bne_iff_ne]
  by_cases blank : trimChars line = []
  · simp [blank]
  · simp [blank]

/-- Numbering at one go: each line keeps its number, or is left out when nothing is left of it. -/
theorem numberLines_eq_filterMap (first : Nat) (lines : List (List Char))
    : numberLines first lines
      = (lines.zipIdx first).filterMap fun line =>
          if trimChars line.1 = [] then none
          else some ⟨line.2, String.ofList (trimChars line.1)⟩ := by
  induction lines generalizing first with
  | nil => rfl
  | cons line lines ih =>
      rw [numberLines_cons, List.zipIdx_cons, List.filterMap_cons, ih]
      by_cases blank : trimChars line = []
      · rw [if_pos blank, if_pos blank]
      · rw [if_neg blank, if_neg blank]

/-- Lines after others are numbered on from the first number after those. -/
theorem numberLines_append (first : Nat) (lines more : List (List Char))
    : numberLines first (lines ++ more)
      = numberLines first lines ++ numberLines (first + lines.length) more := by
  simp only [numberLines, List.zipIdx_append, List.map_append, List.filter_append]

theorem le_number_of_mem {first : Nat} {lines : List (List Char)} {line : SourceLine}
    (member : line ∈ numberLines first lines)
    : first ≤ line.number := by
  induction lines generalizing first with
  | nil => simp at member
  | cons head tail ih =>
      rw [numberLines_cons] at member
      split at member
      · exact Nat.le_of_succ_le (ih member)
      · rcases List.mem_cons.mp member with rfl | later
        · exact Nat.le_refl first
        · exact Nat.le_of_succ_le (ih later)

/-- Later lines have greater numbers, by induction on the lines. -/
theorem numberLines_pairwise (first : Nat) (lines : List (List Char))
    : (numberLines first lines).Pairwise fun line next => line.number < next.number := by
  induction lines generalizing first with
  | nil => exact .nil
  | cons head tail ih =>
      rw [numberLines_cons]
      split
      · exact ih (first + 1)
      · exact .cons (fun next member => le_number_of_mem member) (ih (first + 1))

-----------------------------------------------------------------------------------------
-- Lines agree with pieces
-----------------------------------------------------------------------------------------

/-- Pieces hold the same lines as a division into lines, up to a carriage return that ends a
line and one empty piece after the last line.
-/
inductive SameLines : List (List Char) → List (List Char) → Prop
  | nil : SameLines [] []
  | final : SameLines [[]] []
  | cons {pieces lines} (line : List Char) (rest : SameLines pieces lines)
    : SameLines (line :: pieces) (line :: lines)
  | returned {pieces lines} (line : List Char) (rest : SameLines pieces lines)
    : SameLines ((line ++ ['\r']) :: pieces) (line :: lines)

/-- A character in front joins the first line on both sides, by cases on the agreement. -/
theorem SameLines.joinFirst {pieces lines} (same : SameLines pieces lines) (c : Char)
    : SameLines (joinFirst c pieces) (joinFirst c lines) := by
  cases same with
  | nil => exact .cons [c] .nil
  | final => exact .cons [c] .nil
  | cons line rest => exact .cons (c :: line) rest
  | returned line rest => exact .returned (c :: line) rest

/-- Of a carriage return and a line feed only the pieces keep the former: their first line was
empty on both sides.
-/
theorem SameLines.afterReturn {pieces lines} (same : SameLines ([] :: pieces) ([] :: lines))
    : SameLines (['\r'] :: pieces) ([] :: lines) := by
  generalize first : ([] : List Char) :: pieces = all at same
  cases same with
  | cons _ rest =>
      obtain rfl := (List.cons.inj first).2
      exact .returned [] rest
  | returned line rest => simp at first

/-- The pieces of a text hold its lines, by induction on the text. -/
theorem pieces_sameLines (chars : List Char)
    : SameLines (pieces '\n' chars) (splitLines chars) := by
  induction chars with
  | nil => exact .final
  | cons c rest ih =>
      by_cases feed : c = '\n'
      · simpa [pieces, splitLines, feed] using SameLines.cons [] ih
      · by_cases ending : c = '\r' && rest.head? = some '\n'
        -- The pieces keep the carriage return, and the lines drop it.
        · obtain ⟨rfl, more, rfl⟩ : c = '\r' ∧ ∃ more, rest = '\n' :: more := by
            simpa [List.head?_eq_some_iff] using ending
          have first : SameLines ([] :: pieces '\n' more) ([] :: splitLines more) := by
            simpa [pieces, splitLines] using ih
          simpa [pieces, splitLines, Text.joinFirst] using first.afterReturn
        · simpa [pieces, splitLines, feed, ending] using ih.joinFirst c

/-- Divisions that hold the same lines are numbered alike, by induction on the agreement. A
carriage return and an empty piece are trimmed away.
-/
theorem SameLines.numberLines {pieces lines} (same : SameLines pieces lines) (first : Nat)
    : numberLines first pieces = numberLines first lines := by
  induction same generalizing first with
  | nil => rfl
  | final => simp [numberLines_cons, trimChars]
  | cons line rest ih => simp only [numberLines_cons, ih]
  | returned line rest ih =>
      have trimmed := trimChars_append_blank line (c := '\r') (by decide)
      simp only [numberLines_cons, trimmed, ih]

/-- Pieces that hold no carriage return and are not empty are lines as they stand, by induction on
the agreement.
-/
theorem SameLines.eq_of_plain {pieces lines} (same : SameLines pieces lines)
    (written : ∀ piece ∈ pieces, piece ≠ []) (plain : ∀ piece ∈ pieces, '\r' ∉ piece)
    : lines = pieces := by
  induction same with
  | nil => rfl
  | final => exact absurd rfl (written [] List.mem_cons_self)
  | cons line rest ih =>
      obtain ⟨-, more⟩ := List.forall_mem_cons.mp written
      obtain ⟨-, others⟩ := List.forall_mem_cons.mp plain
      rw [ih more others]
  | returned line rest ih =>
      have ending := plain (line ++ ['\r']) List.mem_cons_self
      exact absurd (List.mem_append_right line List.mem_cons_self) ending

/-- The lines of a text as they are read, without what ends them. -/
def lines (text : String) : List String :=
  (splitLines text.toList).map String.ofList

/-- A text that stays on one line wherever it is put. -/
structure OnOneLine (text : String) : Prop where
  noFeed : '\n' ∉ text.toList
  noReturn : '\r' ∉ text.toList

instance (text : String) : Decidable (OnOneLine text) :=
  decidable_of_iff ('\n' ∉ text.toList ∧ '\r' ∉ text.toList)
    ⟨fun h => ⟨h.1, h.2⟩, fun h => ⟨h.noFeed, h.noReturn⟩⟩

theorem OnOneLine.append {left right : String} (first : OnOneLine left)
    (second : OnOneLine right)
    : OnOneLine (left ++ right) := by
  constructor
  · rw [String.toList_append, List.mem_append, not_or]
    exact ⟨first.noFeed, second.noFeed⟩
  · rw [String.toList_append, List.mem_append, not_or]
    exact ⟨first.noReturn, second.noReturn⟩

/-- Joined lines are read as themselves, when each has something on it and stays on one line. -/
theorem lines_joinLines {texts : List String} (written : ∀ text ∈ texts, text ≠ "")
    (single : ∀ text ∈ texts, OnOneLine text)
    : lines (joinLines texts) = texts := by
  by_cases empty : texts = []
  · subst empty
    rfl
  · have raw := rawLines_joinLines empty fun text member => (single text member).noFeed
    have known : ∀ piece ∈ pieces '\n' (joinLines texts).toList, String.ofList piece ∈ texts := by
      intro piece member
      rw [← raw]
      exact List.mem_map_of_mem member
    have same := (pieces_sameLines (joinLines texts).toList).eq_of_plain ?_ ?_
    · rw [lines, same]
      exact raw
    · rintro piece member rfl
      exact written _ (known [] member) rfl
    · intro piece member
      have plain := (single _ (known piece member)).noReturn
      rwa [String.toList_ofList] at plain

theorem sourceLines_ordered (text : String)
    : (sourceLines text).Pairwise fun line next => line.number < next.number :=
  numberLines_pairwise 1 (splitLines text.toList)

/-- The lines of a program are its pieces, numbered, trimmed and without the blank ones. -/
theorem sourceLines_eq_numberLines (text : String)
    : sourceLines text = numberLines 1 (pieces '\n' text.toList) :=
  ((pieces_sameLines text.toList).numberLines 1).symm

end PenPlotter.Text
