import PenPlotter.Proofs.Text.Words
import PenPlotter.Text.Scanner

/-!
The scanner finds exactly the words of a text. Any words can be found again in a text where they are
set out with blanks between them, and every text is one where its words are set out.
-/

namespace PenPlotter.Text

-----------------------------------------------------------------------------------------
-- Words set out with blanks
-----------------------------------------------------------------------------------------

/-- A text in which words are set out: what stands before the first, then each word with what stands
after it.
-/
def setOut (lead : String) : List (String × String) → String
  | [] => lead
  | (word, gap) :: entries => lead ++ (word ++ setOut gap entries)

/-- What stands before, between and after the words are blanks, and between two words there is at
least one.
-/
def IsSpaced (lead : String) : List (String × String) → Prop
  | [] => IsBlankText lead
  | (word, gap) :: entries =>
      IsBlankText lead ∧ IsWord word ∧ (entries = [] ∨ gap ≠ "") ∧ IsSpaced gap entries

instance IsSpaced.decidable
    : (lead : String) → (entries : List (String × String)) → Decidable (IsSpaced lead entries)
  | lead, [] => inferInstanceAs (Decidable (IsBlankText lead))
  | lead, (word, gap) :: entries =>
      have : Decidable (IsSpaced gap entries) := IsSpaced.decidable gap entries
      inferInstanceAs
        (Decidable
          (IsBlankText lead ∧ IsWord word ∧ (entries = [] ∨ gap ≠ "") ∧ IsSpaced gap entries))

theorem IsSpaced.lead_blank {lead : String} {entries : List (String × String)}
    (spaced : IsSpaced lead entries)
    : IsBlankText lead := by
  cases entries with
  | nil => exact spaced
  | cons entry entries => exact spaced.1

/-- No letter follows a word. -/
theorem IsSpaced.head_blank {gap : String} {entries : List (String × String)}
    (spaced : IsSpaced gap entries) (apart : entries = [] ∨ gap ≠ "")
    : ∀ c ∈ (setOut gap entries).toList.head?, isBlank c = true := by
  have blank := spaced.lead_blank
  cases letters : gap.toList with
  | nil =>
      obtain rfl : gap = "" := by simpa using letters
      obtain rfl : entries = [] := apart.resolve_right (by simp)
      simp [setOut]
  | cons c more =>
      have first : (setOut gap entries).toList.head? = some c := by
        cases entries <;> simp [setOut, letters]
      simpa [first] using blank c (by simp [letters])

/-- The scanner finds the words that are set out, by induction on them. -/
theorem Scanner.words?_setOut (passed : String) {lead : String}
    {entries : List (String × String)} (spaced : IsSpaced lead entries)
    : (between passed (setOut lead entries)).words? = some (entries.map Prod.fst) := by
  induction entries generalizing passed lead with
  | nil =>
      rw [words?, setOut, next?_between_blank passed spaced]
      rfl
  | cons entry entries ih =>
      obtain ⟨word, gap⟩ := entry
      obtain ⟨blank, written, apart, later⟩ := spaced
      rw [words?, setOut, next?_between_word passed blank written (later.head_blank apart)]
      simp only [Option.bind_eq_bind, Option.bind_some, ih (passed ++ lead ++ word) later]
      rfl

/-- The words that are set out are the words of the text, by induction on them. -/
theorem words_setOut {lead : String} {entries : List (String × String)}
    (spaced : IsSpaced lead entries)
    : words (setOut lead entries) = entries.map Prod.fst := by
  induction entries generalizing lead with
  | nil => rw [words, setOut, wordChars_eq_nil_iff.mpr spaced, List.map_nil, List.map_nil]
  | cons entry entries ih =>
      obtain ⟨word, gap⟩ := entry
      obtain ⟨blank, written, apart, later⟩ := spaced
      have characters
          : (setOut lead ((word, gap) :: entries)).toList
            = lead.toList ++ (word.toList ++ (setOut gap entries).toList) := by
        simp only [setOut, String.toList_append]
      have first
          : wordChars (word.toList ++ (setOut gap entries).toList)
            = word.toList :: wordChars (setOut gap entries).toList :=
        wordChars_append_apart (by simpa using written.1) written.2 (later.head_blank apart)
      rw [words, characters, wordChars_append_blanks blank, first, List.map_cons,
        String.ofList_toList, List.map_cons, ← ih later, words]

/-- A blank at the start stands before the first word, if there is any. -/
theorem IsSpaced.eq_nil_or_lead_ne {lead : String} {entries : List (String × String)}
    (spaced : IsSpaced lead entries)
    (apart : ∀ c ∈ (setOut lead entries).toList.head?, isBlank c = true)
    : entries = [] ∨ lead ≠ "" := by
  cases entries with
  | nil => exact Or.inl rfl
  | cons entry entries =>
      obtain ⟨word, gap⟩ := entry
      obtain ⟨-, ⟨some, letters⟩, -⟩ := spaced
      refine Or.inr fun empty => ?_
      obtain ⟨c, more, spelled⟩ :=
        List.exists_cons_of_ne_nil (by simpa using some : word.toList ≠ [])
      have blank := apart c (by simp [setOut, empty, spelled])
      rw [letters c (by simp [spelled])] at blank
      cases blank

/-- Every text is made of words set out with blanks, by recursion on what comes after its first
word.
-/
theorem exists_isSpaced (text : String)
    : ∃ lead entries, IsSpaced lead entries ∧ setOut lead entries = text := by
  rcases blank_or_exists_word text with blank | ⟨gap, word, rest, cut, blank, written, apart⟩
  · exact ⟨text, [], blank, rfl⟩
  · have shorter : rest.utf8ByteSize < text.utf8ByteSize := by
      have size : word.utf8ByteSize ≠ 0 := by simpa using written.1
      simp only [cut, String.utf8ByteSize_append]
      omega
    obtain ⟨lead, entries, spaced, same⟩ := exists_isSpaced rest
    rw [← same] at apart
    refine ⟨gap, (word, lead) :: entries, ?_, by rw [cut, setOut, same]⟩
    exact ⟨blank, written, spaced.eq_nil_or_lead_ne apart, spaced⟩
termination_by text.utf8ByteSize

theorem IsSpaced.isWord {lead : String} {entries : List (String × String)}
    (spaced : IsSpaced lead entries)
    : ∀ word ∈ entries.map Prod.fst, IsWord word := by
  induction entries generalizing lead with
  | nil => simp
  | cons entry entries ih => exact List.forall_mem_cons.mpr ⟨spaced.2.1, ih spaced.2.2.2⟩

theorem isWord_of_mem_words {text word : String} (member : word ∈ words text) : IsWord word := by
  obtain ⟨lead, entries, spaced, rfl⟩ := exists_isSpaced text
  rw [words_setOut spaced] at member
  exact spaced.isWord word member

theorem join_words (text : String)
    : String.join (words text) = String.ofList (text.toList.filter fun c => !isBlank c) := by
  rw [← String.toList_inj, String.toList_ofList, ← flatten_wordChars, String.toList_join, words,
    List.flatMap_map]
  simp

/-- The scanner finds exactly the words of a text. It gets to the end of every text without a cut
inside a character, and finds the maximal runs of characters that are not blank, in order. No word
is empty or holds a blank, together the words are all that is not blank, and between two of them
there are blanks. Whatever words are set out in a text, with at least one blank between two of them
and any blanks around them all, are found again, and the text is read as those words are.
-/
theorem scanner_finds_exactly_the_words
    : (∀ text,
        (Scanner.start text).words? = some (words text)
        ∧ words text = (runs text.toList).map String.ofList
        ∧ (∀ word ∈ words text, IsWord word)
        ∧ String.join (words text) = String.ofList (text.toList.filter fun c => !isBlank c)
        ∧ ∃ lead entries,
            IsSpaced lead entries
            ∧ setOut lead entries = text
            ∧ entries.map Prod.fst = words text)
      ∧ ∀ lead entries,
          IsSpaced lead entries
          → (Scanner.start (setOut lead entries)).words? = some (entries.map Prod.fst)
            ∧ Instruction.parse (setOut lead entries)
              = Instruction.ofWords (entries.map Prod.fst) := by
  have found {lead : String} {entries : List (String × String)}
      (spaced : IsSpaced lead entries)
      : (Scanner.start (setOut lead entries)).words? = some (entries.map Prod.fst) := by
    simpa [Scanner.between, Scanner.start] using Scanner.words?_setOut "" spaced
  constructor
  · intro text
    obtain ⟨lead, entries, spaced, rfl⟩ := exists_isSpaced text
    rw [words_setOut spaced]
    refine ⟨found spaced, ?_, spaced.isWord, ?_, lead, entries, spaced, rfl, rfl⟩
    · rw [← words_setOut spaced, words, wordChars_eq_runs]
    · rw [← words_setOut spaced, join_words]
  · intro lead entries spaced
    refine ⟨found spaced, ?_⟩
    rw [Instruction.parse_eq_ofWords, words_setOut spaced]

/-- Words with characters of two and of four bytes, between blanks of one, two and three. -/
theorem scanner_finds_exactly_the_words_sample
    : let entries := [("color", "\t\u00a0"), ("röd", "\u3000 "), ("😀", "")]
      IsSpaced "\r " entries
      ∧ setOut "\r " entries = "\r color\t\u00a0röd\u3000 😀"
      ∧ (Scanner.start (setOut "\r " entries)).words? = some ["color", "röd", "😀"]
      ∧ Instruction.parse (setOut "\r " entries)
        = .error (.wrongCount .color 1 2) := by
  intro entries
  have spaced : IsSpaced "\r " entries := by decide
  obtain ⟨found, read⟩ := scanner_finds_exactly_the_words.2 "\r " entries spaced
  refine ⟨spaced, by decide, found, read.trans ?_⟩
  rfl

end PenPlotter.Text
