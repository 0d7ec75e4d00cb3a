import Mathlib.Data.List.DropRight
import PenPlotter.Proofs.Text.SourceLines
import PenPlotter.Text.Scanner

/-!
Where the lines of a program stand in its text. A line reaches from one line feed, or the start of
the text, to the next, or the end, and its number is one more than there are line feeds before it.
What is read of it is what the blanks at its ends leave, if they leave anything. No other character
ends a line, and it makes no difference whether the text ends with a line feed.
-/

namespace PenPlotter.Text

-----------------------------------------------------------------------------------------
-- What blanks leave
-----------------------------------------------------------------------------------------

/-- What the blanks at both ends of a text leave: only blanks stand around it, and it neither begins
nor ends with one.
-/
def IsInside (inner outer : List Char) : Prop :=
  ∃ left right,
    outer = left ++ inner ++ right
    ∧ (∀ c ∈ left ++ right, isBlank c = true)
    ∧ (∀ c ∈ inner.head?, isBlank c = false)
    ∧ ∀ c ∈ inner.getLast?, isBlank c = false

theorem dropWhile_eq_self {chars : List Char} (starts : ∀ c ∈ chars.head?, isBlank c = false)
    : chars.dropWhile isBlank = chars := by
  cases chars with
  | nil => rfl
  | cons c rest =>
      have letter := starts c rfl
      rw [List.dropWhile_cons_of_neg (ne_true_of_eq_false letter)]

theorem head?_dropWhile_blank (chars : List Char)
    : ∀ c ∈ (chars.dropWhile isBlank).head?, isBlank c = false := by
  intro c first
  have stops := List.head?_dropWhile_not isBlank chars
  rwa [first] at stops

theorem mem_takeWhile_blank (chars : List Char)
    : ∀ c ∈ chars.takeWhile isBlank, isBlank c = true :=
  List.all_eq_true.mp List.all_takeWhile

/-- Trimming finds what the blanks leave, from the front and then from the back. -/
theorem isInside_trimChars (outer : List Char) : IsInside (trimChars outer) outer := by
  have front := List.takeWhile_append_dropWhile (p := isBlank) (l := outer)
  have starts := head?_dropWhile_blank outer
  rw [trimChars]
  generalize outer.dropWhile isBlank = rest at front starts ⊢
  have back := List.takeWhile_append_dropWhile (p := isBlank) (l := rest.reverse)
  have ends := head?_dropWhile_blank rest.reverse
  have blank := mem_takeWhile_blank rest.reverse
  generalize rest.reverse.dropWhile isBlank = inner at back ends ⊢
  generalize rest.reverse.takeWhile isBlank = right at back blank
  obtain rfl : rest = inner.reverse ++ right.reverse := by
    rw [← List.reverse_append, back, List.reverse_reverse]
  refine ⟨outer.takeWhile isBlank, right.reverse, ?_, ?_, ?_, ?_⟩
  · rw [List.append_assoc, front]
  · refine List.forall_mem_append.mpr ⟨mem_takeWhile_blank outer, ?_⟩
    simpa using blank
  · intro c first
    apply starts
    rw [List.head?_append, first]
    rfl
  · simpa using ends

/-- Nothing else is left by the blanks at both ends, by cases on whether anything is. -/
theorem IsInside.trimChars {inner outer : List Char} (inside : IsInside inner outer)
    : trimChars outer = inner := by
  obtain ⟨left, right, rfl, blank, starts, ends⟩ := inside
  obtain ⟨before, behind⟩ := List.forall_mem_append.mp blank
  have back : ∀ c ∈ right.reverse, isBlank c = true := by simpa using behind
  rw [Text.trimChars, List.append_assoc, List.dropWhile_append_of_pos before]
  cases inner with
  | nil =>
      rw [List.nil_append, List.dropWhile_eq_nil_iff.mpr behind]
      rfl
  | cons c rest =>
      have whole : ((c :: rest) ++ right).dropWhile isBlank = (c :: rest) ++ right :=
        dropWhile_eq_self starts
      rw [whole, List.reverse_append, List.dropWhile_append_of_pos back, dropWhile_eq_self,
        List.reverse_reverse]
      rwa [List.head?_reverse]

theorem trimChars_eq_iff {inner outer : List Char}
    : trimChars outer = inner ↔ IsInside inner outer :=
  ⟨fun same => same ▸ isInside_trimChars outer, IsInside.trimChars⟩

-----------------------------------------------------------------------------------------
-- Places of pieces
-----------------------------------------------------------------------------------------

/-- A part of a text holds no separator and reaches from one to the next, or to the ends. -/
structure IsPiece (separator : Char) (before piece after : List Char) : Prop where
  starts : ∀ c ∈ before.getLast?, c = separator
  ends : ∀ c ∈ after.head?, c = separator
  whole : separator ∉ piece

theorem pieces_of_not_mem {separator : Char} {piece : List Char} (whole : separator ∉ piece)
    : pieces separator piece = [piece] := by
  rw [pieces_eq_splitOn]
  exact List.splitOnP_eq_singleton fun c member => by
    simpa using ne_of_mem_of_not_mem member whole

variable {separator : Char} {before piece after : List Char}

/-- Whatever reaches from one separator to the next is the piece after as many pieces as there are
separators before it. By cases on what stands before it and after it.
-/
theorem IsPiece.getElem?_pieces (placed : IsPiece separator before piece after)
    : (pieces separator (before ++ piece ++ after))[before.count separator]? = some piece := by
  obtain ⟨starts, ends, whole⟩ := placed
  have first : (pieces separator (piece ++ after))[0]? = some piece := by
    cases after with
    | nil => rw [List.append_nil, pieces_of_not_mem whole, List.getElem?_cons_zero]
    | cons c after =>
        obtain rfl := ends c rfl
        rw [pieces_append_cons, pieces_of_not_mem whole]
        rfl
  rcases List.eq_nil_or_concat before with rfl | ⟨more, c, rfl⟩
  · exact first
  · obtain rfl : c = separator := starts c (by simp)
    have split : more.concat c ++ piece ++ after = more ++ c :: (piece ++ after) := by simp
    have count : (more.concat c).count c = (pieces c more).length := by
      rw [length_pieces, List.concat_eq_append, List.count_append, List.count_singleton_self]
    rw [split, pieces_append_cons, count, List.getElem?_append_right le_rfl, Nat.sub_self, first]

/-- Every piece reaches from one separator to the next, by induction on the text. A character that
is no separator lengthens the first piece, or else what stands before the piece.
-/
theorem exists_isPiece {chars : List Char} {i : Nat}
    (found : (pieces separator chars)[i]? = some piece)
    : ∃ before after,
        chars = before ++ piece ++ after
        ∧ IsPiece separator before piece after
        ∧ before.count separator = i := by
  induction chars generalizing i piece with
  | nil =>
      obtain ⟨rfl, rfl⟩ : i = 0 ∧ piece = [] := by
        cases i with
        | zero => exact ⟨rfl, (Option.some.inj found).symm⟩
        | succ i => cases found
      exact ⟨[], [], rfl, ⟨by simp, by simp, by simp⟩, rfl⟩
  | cons c rest ih =>
      rw [pieces] at found
      split at found
      next same =>
        subst same
        cases i with
        | zero =>
            obtain rfl := Option.some.inj found
            exact ⟨[], c :: rest, rfl, ⟨by simp, by simp, by simp⟩, rfl⟩
        | succ i =>
            obtain ⟨before, after, rfl, ⟨starts, ends, whole⟩, rfl⟩ := ih found
            refine ⟨c :: before, after, rfl, ⟨?_, ends, whole⟩, List.count_cons_self⟩
            intro d last
            rcases List.eq_nil_or_concat before with rfl | ⟨more, e, rfl⟩
            · simpa [eq_comm] using last
            · exact starts d (by simpa [List.getLast?_cons] using last)
      next other =>
        cases split : pieces separator rest with
        | nil => exact absurd split (pieces_ne_nil separator rest)
        | cons first more =>
            rw [split] at found ih
            cases i with
            | zero =>
                obtain rfl := Option.some.inj found
                obtain ⟨before, after, cut, ⟨starts, ends, whole⟩, none⟩ := ih (i := 0) rfl
                -- No separator stands before the first piece, so nothing does.
                obtain rfl : before = [] := by
                  rcases List.eq_nil_or_concat before with rfl | ⟨more, e, rfl⟩
                  · rfl
                  · obtain rfl : e = separator := starts e (by simp)
                    simp at none
                refine ⟨[], after, by rw [cut]; rfl, ⟨by simp, ends, ?_⟩, rfl⟩
                simpa [Ne.symm other] using whole
            | succ i =>
                obtain ⟨before, after, rfl, ⟨starts, ends, whole⟩, count⟩ := ih (i := i + 1) found
                refine ⟨c :: before, after, rfl, ⟨?_, ends, whole⟩, ?_⟩
                · rcases List.eq_nil_or_concat before with rfl | ⟨more, e, rfl⟩
                  · simp at count
                  · intro d last
                    exact starts d (by simpa [List.getLast?_cons] using last)
                · rw [List.count_cons_of_ne other, count]

-----------------------------------------------------------------------------------------
-- Places of lines
-----------------------------------------------------------------------------------------

/-- A line stands in a text: it is what the blanks leave of all that reaches from one line feed to
the next, it is not empty, and its number is one more than there are line feeds before it.
-/
def SourceLine.StandsIn (line : SourceLine) (text : String) : Prop :=
  ∃ before piece after,
    text.toList = before ++ piece ++ after
    ∧ IsPiece '\n' before piece after
    ∧ line.number = before.count '\n' + 1
    ∧ IsInside line.text.toList piece
    ∧ line.text ≠ ""

/-- The lines of a program told plainly. Its text is cut at every line feed, the pieces are numbered
from one, the blanks at the ends of each are dropped, and the pieces that are not empty are kept.
-/
def plainLines (text : String) : List SourceLine :=
  ((text.toList.splitOn '\n').zipIdx 1).filterMap fun piece =>
    match (piece.1.dropWhile isBlank).rdropWhile isBlank with
    | [] => none
    | inner => some ⟨piece.2, String.ofList inner⟩

theorem mem_numberLines_iff {first : Nat} {lines : List (List Char)} {line : SourceLine}
    : line ∈ numberLines first lines
      ↔ ∃ i piece,
          lines[i]? = some piece
          ∧ line.number = first + i
          ∧ line.text = String.ofList (trimChars piece)
          ∧ line.text ≠ "" := by
  rw [numberLines, List.mem_filter, List.mem_map]
  constructor
  · rintro ⟨⟨⟨piece, n⟩, member, rfl⟩, written⟩
    obtain ⟨after, found⟩ := List.mem_zipIdx_iff_le_and_getElem?_sub.mp member
    exact ⟨n - first, piece, found, (Nat.add_sub_cancel' after).symm, rfl, by simpa using written⟩
  · rintro ⟨i, piece, found, number, text, written⟩
    refine ⟨⟨(piece, first + i), ?_, ?_⟩, by simpa using written⟩
    · rw [List.mem_zipIdx_iff_le_and_getElem?_sub]
      exact ⟨Nat.le_add_right first i, by rwa [Nat.add_sub_cancel_left]⟩
    · rw [← number, ← text]

/-- The lines of a program are those that stand in its text. -/
theorem mem_sourceLines_iff {text : String} {line : SourceLine}
    : line ∈ sourceLines text ↔ line.StandsIn text := by
  rw [sourceLines_eq_numberLines, mem_numberLines_iff]
  constructor
  · rintro ⟨i, piece, found, number, trimmed, written⟩
    obtain ⟨before, after, cut, placed, rfl⟩ := exists_isPiece found
    refine ⟨before, piece, after, cut, placed, by rw [number, Nat.add_comm], ?_, written⟩
    rw [← trimChars_eq_iff, trimmed, String.toList_ofList]
  · rintro ⟨before, piece, after, cut, placed, number, inside, written⟩
    refine ⟨before.count '\n', piece, ?_, by rw [number, Nat.add_comm], ?_, written⟩
    · rw [cut]
      exact placed.getElem?_pieces
    · rw [inside.trimChars, String.ofList_toList]

theorem sourceLines_eq_plainLines (text : String) : sourceLines text = plainLines text := by
  rw [sourceLines_eq_numberLines, pieces_eq_splitOn, numberLines_eq_filterMap, plainLines]
  congr 1
  funext piece
  have trimmed : (piece.1.dropWhile isBlank).rdropWhile isBlank = trimChars piece.1 := rfl
  rw [trimmed]
  cases trimChars piece.1 <;> rfl

/-- A text without line feeds has one line at most. -/
theorem sourceLines_of_not_mem {text : String} (single : '\n' ∉ text.toList)
    : sourceLines text = if trim text = "" then [] else [⟨1, trim text⟩] := by
  rw [sourceLines_eq_numberLines, pieces_of_not_mem single, numberLines_cons, trim]
  simp

/-- A line feed at the end adds a piece that is empty. -/
theorem sourceLines_append_feed (text : String)
    : sourceLines (text ++ "\n") = sourceLines text := by
  have characters : (text ++ "\n").toList = text.toList ++ '\n' :: [] := String.toList_append
  rw [sourceLines_eq_numberLines, sourceLines_eq_numberLines, characters, pieces_append_cons,
    numberLines_append]
  exact List.append_nil _

/-- What stands in a text as a line is not blank and holds no line feed. -/
theorem SourceLine.StandsIn.written {line : SourceLine} {text : String}
    (stands : line.StandsIn text)
    : ¬ IsBlankText line.text ∧ '\n' ∉ line.text.toList := by
  obtain ⟨_, piece, _, -, placed, -, ⟨left, right, split, -, starts, -⟩, written⟩ := stands
  constructor
  · intro blank
    obtain ⟨c, rest, spelled⟩ :=
      List.exists_cons_of_ne_nil (by simpa using written : line.text.toList ≠ [])
    have letter := starts c (by rw [spelled]; rfl)
    rw [blank c (by rw [spelled]; exact List.mem_cons_self)] at letter
    cases letter
  · intro member
    apply placed.whole
    rw [split]
    exact List.mem_append_left _ (List.mem_append_right _ member)

/-- The lines of a program are what cutting its text at every line feed gives, numbered, trimmed and
without the blank ones. A line is listed exactly when it stands in the text, with one more for its
number than there are line feeds before it, so none that is not blank is lost. The numbers increase,
and no line is blank or holds a line feed. A text without line feeds has one line at most, whatever
else it holds, and a line feed at the end makes no difference.
-/
theorem lines_are_cut_at_line_feeds (text : String)
    : sourceLines text = plainLines text
      ∧ (∀ line, line ∈ sourceLines text ↔ line.StandsIn text)
      ∧ ((sourceLines text).Pairwise fun line next => line.number < next.number)
      ∧ (∀ line ∈ sourceLines text, ¬ IsBlankText line.text ∧ '\n' ∉ line.text.toList)
      ∧ ('\n' ∉ text.toList
        → sourceLines text = if trim text = "" then [] else [⟨1, trim text⟩])
      ∧ sourceLines (text ++ "\n") = sourceLines text :=
  ⟨sourceLines_eq_plainLines text, fun _ => mem_sourceLines_iff, sourceLines_ordered text,
    fun _ member => (mem_sourceLines_iff.mp member).written, sourceLines_of_not_mem,
    sourceLines_append_feed text⟩

/-- Carriage returns at the end of a line and inside one, a line of other separators alone, and no
line feed at the end; and a line that holds only what ends no line.
-/
theorem lines_are_cut_at_line_feeds_samples
    : let text := "\u00a0a\rb \r\n\n\u0085\u2028\nc\u000cd"
      let single := "a\rb\u000cc\u0085d\u2028e\u000b"
      sourceLines text = [⟨1, "a\rb"⟩, ⟨4, "c\u000cd"⟩]
      ∧ (⟨4, "c\u000cd"⟩ ∈ sourceLines text
        ∧ ¬ IsBlankText "c\u000cd" ∧ '\n' ∉ "c\u000cd".toList)
      ∧ '\n' ∉ single.toList
      ∧ sourceLines single = [⟨1, "a\rb\u000cc\u0085d\u2028e"⟩] := by
  intro text single
  have lines : sourceLines text = [⟨1, "a\rb"⟩, ⟨4, "c\u000cd"⟩] := by
    subst text
    decide +kernel
  have member : ⟨4, "c\u000cd"⟩ ∈ sourceLines text := by
    rw [lines]
    exact List.mem_cons_of_mem _ List.mem_cons_self
  have noFeed : '\n' ∉ single.toList := by
    subst single
    decide
  obtain ⟨-, -, -, written, -⟩ := lines_are_cut_at_line_feeds text
  obtain ⟨-, -, -, -, one, -⟩ := lines_are_cut_at_line_feeds single
  refine ⟨lines, ⟨member, written _ member⟩, noFeed, (one noFeed).trans ?_⟩
  subst single
  decide +kernel

end PenPlotter.Text
