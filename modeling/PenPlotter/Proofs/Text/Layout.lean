import Mathlib.Data.List.Forall2
import PenPlotter.Proofs.Text.SourceLines
import PenPlotter.Proofs.Text.Words

/-!
The layout of a text is what its words leave open: which blanks stand between them, which stand
at the ends of a line, and how many blank lines there are at the end. Texts with the same words
line by line have the same numbered lines to read, and changes of layout keep the words.
-/

namespace PenPlotter.Text

-----------------------------------------------------------------------------------------
-- Lines with the same words
-----------------------------------------------------------------------------------------

/-- A line of a text, counted from zero. A line that is not there is empty. -/
def lineAt (chars : List Char) (i : Nat) : List Char :=
  (pieces '\n' chars)[i]?.getD []

/-- Two texts have the same words line by line, whatever stands between the words. Lines that only
one of them has are without words.
-/
def SameWords (left right : String) : Prop :=
  ∀ i, runs (lineAt left.toList i) = runs (lineAt right.toList i)

theorem lineAt_of_length_le {chars : List Char} {i : Nat}
    (beyond : (pieces '\n' chars).length ≤ i)
    : lineAt chars i = [] := by
  rw [lineAt, List.getElem?_eq_none beyond]
  rfl

/-- It is enough to compare the lines that one of the texts has. -/
theorem sameWords_iff {left right : String}
    : SameWords left right
      ↔ ∀ i < max (pieces '\n' left.toList).length (pieces '\n' right.toList).length,
          runs (lineAt left.toList i) = runs (lineAt right.toList i) := by
  constructor
  · intro same i _
    exact same i
  · intro same i
    by_cases within
      : i < max (pieces '\n' left.toList).length (pieces '\n' right.toList).length
    · exact same i within
    · rw [lineAt_of_length_le (by omega), lineAt_of_length_le (by omega)]

instance (left right : String) : Decidable (SameWords left right) :=
  decidable_of_iff _ sameWords_iff.symm

/-- Two lines are read alike when they have the same number and the same words. -/
structure SourceLine.ReadAlike (line other : SourceLine) : Prop where
  number : line.number = other.number
  words : words line.text = words other.text

theorem numberLines_eq_nil {lines : List (List Char)}
    (none : ∀ i : Nat, wordChars (lines[i]?.getD []) = []) (first : Nat)
    : numberLines first lines = [] := by
  induction lines generalizing first with
  | nil => rfl
  | cons line lines ih =>
      have blank : trimChars line = [] := trimChars_eq_nil_iff.mpr (none 0)
      rw [numberLines_cons, if_pos blank]
      exact ih (fun i => none (i + 1)) (first + 1)

/-- Lines with the same words at each place are numbered and read alike, by induction on them.
What one side has beyond the other is blank.
-/
theorem numberLines_readAlike {lines others : List (List Char)}
    (same : ∀ i : Nat, wordChars (lines[i]?.getD []) = wordChars (others[i]?.getD []))
    (first : Nat)
    : List.Forall₂ SourceLine.ReadAlike (numberLines first lines)
        (numberLines first others) := by
  induction lines generalizing others first with
  | nil =>
      rw [numberLines_eq_nil (fun i => (same i).symm) first]
      exact .nil
  | cons line lines ih =>
      cases others with
      | nil =>
          rw [numberLines_eq_nil same first]
          exact .nil
      | cons other others =>
          have here : wordChars line = wordChars other := same 0
          have later := ih (fun i => same (i + 1)) (first + 1)
          rw [numberLines_cons, numberLines_cons]
          simp only [trimChars_eq_nil_iff, here]
          split
          · exact later
          · refine .cons ⟨rfl, ?_⟩ later
            simp only [words, String.toList_ofList, wordChars_trimChars, here]

theorem SameWords.sourceLines {left right : String} (same : SameWords left right)
    : List.Forall₂ SourceLine.ReadAlike (sourceLines left) (sourceLines right) := by
  rw [sourceLines_eq_numberLines, sourceLines_eq_numberLines]
  apply numberLines_readAlike
  intro i
  rw [wordChars_eq_runs, wordChars_eq_runs]
  exact same i

-----------------------------------------------------------------------------------------
-- The lines of a text from its first character on
-----------------------------------------------------------------------------------------

theorem lineAt_cons_zero {c : Char} (other : c ≠ '\n') (rest : List Char)
    : lineAt (c :: rest) 0 = c :: lineAt rest 0 := by
  rw [lineAt, lineAt, pieces, if_neg other]
  cases pieces '\n' rest <;> rfl

theorem lineAt_cons_succ {c : Char} (other : c ≠ '\n') (rest : List Char) (i : Nat)
    : lineAt (c :: rest) (i + 1) = lineAt rest (i + 1) := by
  rw [lineAt, lineAt, pieces, if_neg other]
  cases pieces '\n' rest <;> rfl

theorem startsInWord_lineAt (chars : List Char)
    : startsInWord (lineAt chars 0) = startsInWord chars := by
  cases chars with
  | nil => rfl
  | cons c rest =>
      by_cases feed : c = '\n'
      · subst feed
        rfl
      · rw [lineAt_cons_zero feed, startsInWord, startsInWord]

/-- A line holds characters of its text only, by induction on the text. -/
theorem mem_of_mem_lineAt {chars : List Char} {i : Nat} {c : Char}
    (member : c ∈ lineAt chars i)
    : c ∈ chars := by
  induction chars generalizing i with
  | nil => cases i <;> exact member
  | cons head rest ih =>
      by_cases feed : head = '\n'
      · subst feed
        cases i with
        | zero => exact absurd member List.not_mem_nil
        | succ i => exact List.mem_cons_of_mem _ (ih member)
      · cases i with
        | zero =>
            rw [lineAt_cons_zero feed] at member
            rcases List.mem_cons.mp member with rfl | later
            · exact List.mem_cons_self
            · exact List.mem_cons_of_mem _ (ih later)
        | succ i =>
            rw [lineAt_cons_succ feed] at member
            exact List.mem_cons_of_mem _ (ih member)

-----------------------------------------------------------------------------------------
-- Changes of layout
-----------------------------------------------------------------------------------------

/-- A gap is made of blanks that end no line. -/
def IsGap (gap : List Char) : Prop :=
  ∀ c ∈ gap, isBlank c = true ∧ c ≠ '\n'

instance (gap : List Char) : Decidable (IsGap gap) :=
  List.decidableBAll (fun c => isBlank c = true ∧ c ≠ '\n') gap

/-- A text laid out anew. Gaps may be put around a line feed, any other blank becomes a gap, and
blanks of all kinds may follow the text. All other characters stay.
-/
inductive Relaid : List Char → List Char → Prop
  | finish {blanks} (blank : ∀ c ∈ blanks, isBlank c = true) : Relaid [] blanks
  | feed {before after left right} (leading : IsGap before) (trailing : IsGap after)
    (rest : Relaid left right)
    : Relaid ('\n' :: left) (before ++ '\n' :: (after ++ right))
  | gap {c gap left right} (blank : isBlank c = true) (inLine : c ≠ '\n') (some : gap ≠ [])
    (spaced : IsGap gap) (rest : Relaid left right)
    : Relaid (c :: left) (gap ++ right)
  | letter {c left right} (letter : isBlank c = false) (rest : Relaid left right)
    : Relaid (c :: left) (c :: right)

theorem startsInWord_append {blanks rest : List Char}
    (blank : ∀ c ∈ blanks, isBlank c = true) (apart : startsInWord rest = false)
    : startsInWord (blanks ++ rest) = false := by
  cases blanks with
  | nil => exact apart
  | cons c blanks => simp [startsInWord, blank c List.mem_cons_self]

/-- A gap in front of a text changes the words of no line, by induction on the gap. -/
theorem wordChars_lineAt_gap {gap : List Char} (spaced : IsGap gap) (rest : List Char) (i : Nat)
    : wordChars (lineAt (gap ++ rest) i) = wordChars (lineAt rest i) := by
  induction gap with
  | nil => rfl
  | cons c gap ih =>
      obtain ⟨blank, inLine⟩ := spaced c List.mem_cons_self
      rw [← ih fun d member => spaced d (List.mem_cons_of_mem c member)]
      cases i with
      | zero => rw [List.cons_append, lineAt_cons_zero inLine, wordChars_cons_blank blank]
      | succ i => rw [List.cons_append, lineAt_cons_succ inLine]

/-- A text laid out anew has the same words line by line, and begins in a word if it did before. By
induction on the change.
-/
theorem Relaid.words {left right : List Char} (relaid : Relaid left right)
    : startsInWord left = startsInWord right
      ∧ ∀ i, wordChars (lineAt left i) = wordChars (lineAt right i) := by
  induction relaid with
  | @finish blanks blank =>
      refine ⟨?_, fun i => ?_⟩
      · have apart : startsInWord (blanks ++ []) = false := startsInWord_append blank rfl
        rw [List.append_nil] at apart
        exact apart.symm
      · have none : wordChars (lineAt blanks i) = [] :=
          wordChars_eq_nil_iff.mpr fun c member => blank c (mem_of_mem_lineAt member)
        rw [none]
        cases i <;> rfl
  | @feed before after left right leading trailing rest ih =>
      refine ⟨?_, fun i => ?_⟩
      · exact (startsInWord_append (fun c member => (leading c member).1) rfl).symm
      · rw [wordChars_lineAt_gap leading]
        cases i with
        | zero => rfl
        | succ i => exact (ih.2 i).trans (wordChars_lineAt_gap trailing right i).symm
  | @gap c gap left right blank inLine some spaced rest ih =>
      refine ⟨?_, fun i => ?_⟩
      · obtain ⟨d, more, rfl⟩ := List.exists_cons_of_ne_nil some
        simp [startsInWord, blank, (spaced d List.mem_cons_self).1]
      · have alone : IsGap [c] := by simpa [IsGap] using ⟨blank, inLine⟩
        rw [wordChars_lineAt_gap spaced, ← ih.2]
        exact wordChars_lineAt_gap alone left i
  | @letter c left right letter rest ih =>
      refine ⟨rfl, fun i => ?_⟩
      have inLine : c ≠ '\n' := by
        rintro rfl
        cases letter
      cases i with
      | zero =>
          -- Whether the letter touches a word depends on the character after it.
          rw [lineAt_cons_zero inLine, lineAt_cons_zero inLine, wordChars, wordChars,
            startsInWord_lineAt, startsInWord_lineAt, ih.1, ih.2]
      | succ i => rw [lineAt_cons_succ inLine, lineAt_cons_succ inLine, ih.2]

/-- The first line can be indented too. -/
theorem Relaid.sameWords {left right indent : List Char} (relaid : Relaid left right)
    (spaced : IsGap indent)
    : SameWords (String.ofList left) (String.ofList (indent ++ right)) := by
  intro i
  simp only [String.toList_ofList, ← wordChars_eq_runs]
  exact (relaid.words.2 i).trans (wordChars_lineAt_gap spaced right i).symm

-----------------------------------------------------------------------------------------
-- Some changes of layout
-----------------------------------------------------------------------------------------

/-- A text with another ending for each of its lines. -/
def withFeed (feed : String) (text : String) : String :=
  String.ofList (text.toList.flatMap fun c => if c = '\n' then feed.toList else [c])

/-- Two characters are equal, or are blanks that end no line. -/
def SameSpacing (c d : Char) : Prop :=
  c = d ∨ IsGap [c, d]

instance (c d : Char) : Decidable (SameSpacing c d) :=
  inferInstanceAs (Decidable (c = d ∨ IsGap [c, d]))

theorem IsGap.nil : IsGap [] := by
  simp [IsGap]

/-- A character in front may stay as it is, by cases on what it is. -/
theorem Relaid.cons {left right : List Char} (rest : Relaid left right) (c : Char)
    : Relaid (c :: left) (c :: right) := by
  by_cases inLine : c = '\n'
  · subst inLine
    exact .feed .nil .nil rest
  · cases blank : isBlank c with
    | true =>
        have alone : IsGap [c] := by simpa [IsGap] using ⟨blank, inLine⟩
        exact .gap blank inLine (List.cons_ne_nil c []) alone rest
    | false => exact .letter blank rest

/-- Blanks may follow a text, by induction on the text. -/
theorem Relaid.append {blanks : List Char} (blank : ∀ c ∈ blanks, isBlank c = true)
    (chars : List Char)
    : Relaid chars (chars ++ blanks) := by
  induction chars with
  | nil => exact .finish blank
  | cons c rest ih => exact ih.cons c

/-- Gaps may be put around all line feeds, by induction on the text. -/
theorem Relaid.flatMap {before after : List Char} (leading : IsGap before)
    (trailing : IsGap after) (chars : List Char)
    : Relaid chars (chars.flatMap fun c => if c = '\n' then before ++ '\n' :: after else [c]) := by
  induction chars with
  | nil => exact .finish (by simp)
  | cons c rest ih =>
      rw [List.flatMap_cons]
      split
      next feed =>
        subst feed
        rw [List.append_assoc]
        exact .feed leading trailing ih
      next => exact ih.cons c

/-- Blanks within lines may change one by one, by induction on the text. -/
theorem Relaid.of_forall₂ {left right : List Char}
    (spacing : List.Forall₂ SameSpacing left right)
    : Relaid left right := by
  induction spacing with
  | nil => exact .finish (by simp)
  | @cons c d left right here _ ih =>
      rcases here with rfl | spaced
      · exact ih.cons c
      · obtain ⟨blank, inLine⟩ := spaced c (by simp)
        have other : IsGap [d] := fun e member => spaced e (List.mem_cons_of_mem c member)
        exact .gap blank inLine (List.cons_ne_nil d []) other ih

end PenPlotter.Text
