import Mathlib.Data.List.TakeWhile
import PenPlotter.Language.Parse

/-!
The words of a text are its runs of characters that are not blank. A blank between two texts keeps
their words apart, so a text and what is left of it after trimming have the same words, and words
that are written with spaces between them are found again.
-/

namespace PenPlotter.Text

-----------------------------------------------------------------------------------------
-- Runs of characters that are not blank
-----------------------------------------------------------------------------------------

/-- The maximal runs of characters that are not blank: what stands between one blank and the
next, unless nothing does.
-/
def runs (chars : List Char) : List (List Char) :=
  (chars.splitOnP isBlank).filter (· != [])

/-- A text begins in a word when something stands before its first blank, by cases on its first
character.
-/
theorem exists_splitOnP_blank (chars : List Char)
    : ∃ first more,
        chars.splitOnP isBlank = first :: more ∧ startsInWord chars = (first != []) := by
  cases chars with
  | nil => exact ⟨[], [], rfl, rfl⟩
  | cons c rest =>
      rw [List.splitOnP_cons_eq_if_modifyHead, startsInWord]
      split
      next blank => exact ⟨[], rest.splitOnP isBlank, rfl, by simp [blank]⟩
      next letter =>
        cases split : rest.splitOnP isBlank with
        | nil => exact absurd split (List.splitOnP_ne_nil isBlank rest)
        | cons first more => exact ⟨c :: first, more, rfl, by simp [letter]⟩

theorem attach_apart (c : Char) (words : List (List Char))
    : attach c false words = [c] :: words := by
  cases words <;> rfl

/-- The words of a text are its runs, by induction on the text. A letter lengthens the run that
begins right after it, or else is a run of its own.
-/
theorem wordChars_eq_runs (chars : List Char) : wordChars chars = runs chars := by
  induction chars with
  | nil => rfl
  | cons c rest ih =>
      rw [wordChars, ih, runs, runs, List.splitOnP_cons_eq_if_modifyHead]
      split
      next => rfl
      next =>
        obtain ⟨first, more, split, touching⟩ := exists_splitOnP_blank rest
        rw [split, touching]
        cases first with
        | nil => exact attach_apart c _
        | cons d letters => rfl

/-- The words of two texts with a blank between them are those of the one and the other. -/
theorem wordChars_append_cons (left right : List Char) {c : Char} (blank : isBlank c = true)
    : wordChars (left ++ c :: right) = wordChars left ++ wordChars right := by
  simp only [wordChars_eq_runs, runs, List.splitOnP_append_cons left right blank,
    List.filter_append]

-----------------------------------------------------------------------------------------
-- Characters of words
-----------------------------------------------------------------------------------------

theorem flatten_attach (c : Char) (touching : Bool) (words : List (List Char))
    : (attach c touching words).flatten = c :: words.flatten := by
  cases words with
  | nil => rfl
  | cons word words => cases touching <;> rfl

/-- Whatever is not blank belongs to some word, by induction on the text. -/
theorem flatten_wordChars (chars : List Char)
    : (wordChars chars).flatten = chars.filter fun c => !isBlank c := by
  induction chars with
  | nil => rfl
  | cons c rest ih =>
      rw [wordChars]
      split
      next blank => simp [ih, blank]
      next letter => simp [flatten_attach, ih, letter]

theorem attach_ne_nil (c : Char) (touching : Bool) (words : List (List Char))
    : attach c touching words ≠ [] := by
  cases words with
  | nil => exact List.cons_ne_nil _ _
  | cons word words => cases touching <;> exact List.cons_ne_nil _ _

/-- Only blanks have no words, by induction on the text. -/
theorem wordChars_eq_nil_iff {chars : List Char}
    : wordChars chars = [] ↔ ∀ c ∈ chars, isBlank c = true := by
  induction chars with
  | nil => simp [wordChars]
  | cons c rest ih =>
      rw [wordChars, List.forall_mem_cons]
      split
      next blank => simp only [ih, blank, true_and]
      next letter =>
        have some := attach_ne_nil c (startsInWord rest) (wordChars rest)
        simp [letter, some]

-----------------------------------------------------------------------------------------
-- Trimming
-----------------------------------------------------------------------------------------

theorem wordChars_cons_blank {c : Char} (blank : isBlank c = true) (rest : List Char)
    : wordChars (c :: rest) = wordChars rest := by
  rw [wordChars, if_pos blank]

theorem wordChars_append_blank (chars : List Char) {c : Char} (blank : isBlank c = true)
    : wordChars (chars ++ [c]) = wordChars chars := by
  rw [wordChars_append_cons chars [] blank]
  exact List.append_nil _

theorem wordChars_dropWhile_blank (chars : List Char)
    : wordChars (chars.dropWhile isBlank) = wordChars chars := by
  induction chars with
  | nil => rfl
  | cons head tail ih =>
      by_cases blank : isBlank head = true
      · rw [List.dropWhile_cons_of_pos blank, ih, wordChars_cons_blank blank]
      · rw [List.dropWhile_cons_of_neg blank]

/-- Dropping blanks from the end keeps the words, by induction on the text read backwards. -/
theorem wordChars_dropWhile_reverse (backwards : List Char)
    : wordChars (backwards.dropWhile isBlank).reverse = wordChars backwards.reverse := by
  induction backwards with
  | nil => rfl
  | cons last before ih =>
      by_cases blank : isBlank last = true
      · rw [List.dropWhile_cons_of_pos blank, ih, List.reverse_cons,
          wordChars_append_blank _ blank]
      · rw [List.dropWhile_cons_of_neg blank]

theorem wordChars_trimChars (chars : List Char)
    : wordChars (trimChars chars) = wordChars chars := by
  rw [trimChars, wordChars_dropWhile_reverse, List.reverse_reverse, wordChars_dropWhile_blank]

theorem words_trim (text : String) : words (trim text) = words text := by
  simp only [words, trim, String.toList_ofList, wordChars_trimChars]

/-- Trimming leaves nothing of a text exactly when it has no words. -/
theorem trimChars_eq_nil_iff {chars : List Char}
    : trimChars chars = [] ↔ wordChars chars = [] := by
  constructor
  · intro nothing
    rw [← wordChars_trimChars, nothing]
    rfl
  · intro none
    rw [trimChars, List.dropWhile_eq_nil_iff.mpr (wordChars_eq_nil_iff.mp none)]
    rfl

/-- Blanks in front of a text have no words, by induction on them. -/
theorem wordChars_append_blanks {blanks : List Char} (blank : ∀ c ∈ blanks, isBlank c = true)
    (rest : List Char)
    : wordChars (blanks ++ rest) = wordChars rest := by
  induction blanks with
  | nil => rfl
  | cons c blanks ih =>
      obtain ⟨first, later⟩ := List.forall_mem_cons.mp blank
      rw [List.cons_append, wordChars_cons_blank first, ih later]

-----------------------------------------------------------------------------------------
-- Single words
-----------------------------------------------------------------------------------------

/-- A text is its own only word when it is not empty and has no blanks. -/
theorem wordChars_eq_singleton_iff {word : List Char}
    : wordChars word = [word] ↔ word ≠ [] ∧ ∀ c ∈ word, isBlank c = false := by
  constructor
  · intro single
    have letters := flatten_wordChars word
    rw [single, List.flatten_singleton] at letters
    refine ⟨?_, ?_⟩
    · rintro rfl
      cases single
    · simpa using List.filter_eq_self.mp letters.symm
  · rintro ⟨some, letters⟩
    rw [wordChars_eq_runs, runs, List.splitOnP_eq_singleton letters]
    simp [some]

/-- A word that no letter follows is the first word, by cases on what follows. -/
theorem wordChars_append_apart {word rest : List Char} (some : word ≠ [])
    (letters : ∀ c ∈ word, isBlank c = false) (apart : ∀ c ∈ rest.head?, isBlank c = true)
    : wordChars (word ++ rest) = word :: wordChars rest := by
  have single := wordChars_eq_singleton_iff.mpr ⟨some, letters⟩
  cases rest with
  | nil => rw [List.append_nil, single]; rfl
  | cons c rest =>
      have blank := apart c rfl
      rw [wordChars_append_cons word rest blank, single, wordChars_cons_blank blank]
      rfl

theorem words_eq_singleton_iff {word : String}
    : words word = [word] ↔ word ≠ "" ∧ ∀ c ∈ word.toList, isBlank c = false := by
  have characters : words word = [word] ↔ wordChars word.toList = [word.toList] := by
    rw [words, List.map_eq_singleton_iff]
    constructor
    · rintro ⟨chars, single, rfl⟩
      rw [single, String.toList_ofList]
    · intro single
      exact ⟨_, single, String.ofList_toList⟩
  have written : word.toList ≠ [] ↔ word ≠ "" := by simp
  rw [characters, wordChars_eq_singleton_iff, written]

theorem not_mem_of_words_eq_singleton {word : String} (single : words word = [word]) {c : Char}
    (blank : isBlank c = true)
    : c ∉ word.toList := by
  intro member
  have letter := (words_eq_singleton_iff.mp single).2 c member
  rw [blank] at letter
  cases letter

theorem words_append_space (left right : String)
    : words (left ++ " " ++ right) = words left ++ words right := by
  have blank : isBlank ' ' = true := by decide
  have characters
      : (left ++ " " ++ right).toList = left.toList ++ ' ' :: right.toList := by simp
  rw [words, characters, wordChars_append_cons _ _ blank, List.map_append, words, words]

/-- Words with single spaces between them are the words of that text, by induction on them. -/
theorem words_intercalate_space {line : List String}
    (single : ∀ word ∈ line, words word = [word])
    : words (" ".intercalate line) = line := by
  induction line with
  | nil => rfl
  | cons word line ih =>
      obtain ⟨first, later⟩ := List.forall_mem_cons.mp single
      cases line with
      | nil => rw [String.intercalate_singleton, first]
      | cons next line =>
          rw [String.intercalate_cons_cons, words_append_space, first, ih later]
          rfl

end PenPlotter.Text

namespace PenPlotter.Instruction

/-- A line is read as its words are. -/
theorem parse_eq_ofWords (line : String) : parse line = ofWords (Text.words line) := by
  rw [parse, Text.words_trim]

end PenPlotter.Instruction
