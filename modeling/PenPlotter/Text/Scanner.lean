import PenPlotter.Text.Blank

/-!
A scanner finds the words of a text one after another by byte offsets. It looks from its offset for
the first character that is not blank and from there for the next blank, and cuts out what lies
between. A cut needs offsets that lie between two characters or at an end of the text, and without
them there is nothing to give. Each word moves the scanner forward, past whole characters, so it
comes to the end.
-/

namespace PenPlotter.Text

-----------------------------------------------------------------------------------------
-- Cutting at byte offsets
-----------------------------------------------------------------------------------------

/-- What lies between two byte offsets of a text. Neither may fall inside a character or beyond the
end, nor the second before the first.
-/
def slice? (text : String) (first last : Nat) : Option String := do
  let start ← text.pos? ⟨first⟩
  let stop ← text.pos? ⟨last⟩
  if first ≤ last then some (text.extract start stop) else none

/-- A text has a position at the byte offset where it is cut in two. -/
theorem exists_pos? {text left right : String} (cut : left ++ right = text)
    : ∃ pos,
        text.pos? ⟨left.utf8ByteSize⟩ = some pos ∧ pos.offset.byteIdx = left.utf8ByteSize := by
  have valid : String.Pos.Raw.IsValid text ⟨left.utf8ByteSize⟩ :=
    String.Pos.Raw.isValid_iff_exists_append.mpr ⟨left, right, cut.symm, rfl⟩
  refine ⟨text.pos _ valid, ?_, rfl⟩
  simp [String.pos?, String.Slice.pos?, String.pos, valid]

/-- The middle one of three parts of a text is what lies between their offsets. -/
theorem slice?_append (left middle right : String)
    : slice? (left ++ (middle ++ right)) left.utf8ByteSize (left ++ middle).utf8ByteSize
      = some middle := by
  obtain ⟨start, first, before⟩ := exists_pos? (rfl : left ++ (middle ++ right) = _)
  obtain ⟨stop, last, through⟩ :=
    exists_pos? (String.append_assoc : left ++ middle ++ right = _)
  have ordered : left.utf8ByteSize ≤ (left ++ middle).utf8ByteSize := by simp
  have bytes
      : (left.toByteArray ++ (middle ++ right).toByteArray).extract (left.toByteArray.size + 0)
          (left.toByteArray.size + middle.toByteArray.size)
        = middle.toByteArray := by
    rw [ByteArray.extract_append_size_add, String.toByteArray_append,
      ByteArray.extract_append_eq_left rfl]
  simp only [slice?, first, last, Option.bind_eq_bind, Option.bind_some, if_pos ordered,
    Option.some_inj]
  rw [← String.toByteArray_inj, String.toByteArray_extract, before, through,
    String.toByteArray_append, String.utf8ByteSize_append, ← String.size_toByteArray,
    ← String.size_toByteArray]
  exact bytes

/-- Characters with their byte offsets, counted on from that of the first. -/
def offsets (first : Nat) : List Char → List (Nat × Char)
  | [] => []
  | c :: rest => (first, c) :: offsets (first + c.utf8Size) rest

/-- The first character that is looked for is found where the bytes before it end, by induction on
the characters before it.
-/
theorem find?_offsets {wanted : Char → Bool} {skipped coming : List Char}
    (none : ∀ c ∈ skipped, wanted c = false) (found : ∀ c ∈ coming.head?, wanted c = true)
    (first : Nat)
    : ((offsets first (skipped ++ coming)).find? fun entry => wanted entry.2)
      = coming.head?.map fun c => (first + (String.ofList skipped).utf8ByteSize, c) := by
  induction skipped generalizing first with
  | nil =>
      cases coming with
      | nil => rfl
      | cons c coming => simp [offsets, found c rfl]
  | cons c skipped ih =>
      obtain ⟨unwanted, later⟩ := List.forall_mem_cons.mp none
      simp [offsets, unwanted, ih later, Nat.add_assoc]

-----------------------------------------------------------------------------------------
-- Scanners
-----------------------------------------------------------------------------------------

/-- A text and the byte offset from which it is still to be scanned. -/
structure Scanner where
  text : String
  offset : Nat
deriving DecidableEq, Repr

namespace Scanner

def start (text : String) : Scanner :=
  ⟨text, 0⟩

/-- The byte offset of the next character that is looked for, or of the end of the text. -/
def seek? (scanner : Scanner) (wanted : Char → Bool) : Option Nat := do
  let rest ← slice? scanner.text scanner.offset scanner.text.utf8ByteSize
  match (offsets 0 rest.toList).find? fun entry => wanted entry.2 with
  | some entry => return scanner.offset + entry.1
  | none => return scanner.text.utf8ByteSize

/-- What a scanner comes to next: a word, after which the scanner goes on, or the end. -/
inductive Step where
  | word (word : String) (rest : Scanner)
  | finished
deriving DecidableEq, Repr

def next? (scanner : Scanner) : Option Step := do
  let first ← scanner.seek? fun c => !isBlank c
  if scanner.text.utf8ByteSize ≤ first then return .finished
  let last ← seek? { scanner with offset := first } isBlank
  return .word (← slice? scanner.text first last) { scanner with offset := last }

end Scanner

-----------------------------------------------------------------------------------------
-- What comes next
-----------------------------------------------------------------------------------------

def IsBlankText (text : String) : Prop :=
  ∀ c ∈ text.toList, isBlank c = true

def IsWord (word : String) : Prop :=
  word ≠ "" ∧ ∀ c ∈ word.toList, isBlank c = false

instance (text : String) : Decidable (IsBlankText text) :=
  List.decidableBAll (fun c => isBlank c = true) text.toList

instance (word : String) : Decidable (IsWord word) :=
  have : Decidable (∀ c ∈ word.toList, isBlank c = false) :=
    List.decidableBAll (fun c => isBlank c = false) word.toList
  inferInstanceAs (Decidable (word ≠ "" ∧ ∀ c ∈ word.toList, isBlank c = false))

namespace Scanner

/-- A scanner between what it has passed of a text and what is still to come. -/
def between (passed coming : String) : Scanner :=
  ⟨passed ++ coming, passed.utf8ByteSize⟩

/-- Seeking passes what is not looked for, up to a character that is or to the end. -/
theorem seek?_between {wanted : Char → Bool} (passed : String) {skipped coming : String}
    (none : ∀ c ∈ skipped.toList, wanted c = false)
    (found : ∀ c ∈ coming.toList.head?, wanted c = true)
    : (between passed (skipped ++ coming)).seek? wanted
      = some (passed ++ skipped).utf8ByteSize := by
  have whole := slice?_append passed (skipped ++ coming) ""
  have search := find?_offsets none found 0
  rw [String.append_empty] at whole
  rw [← String.toList_append, String.ofList_toList, Nat.zero_add] at search
  simp only [seek?, between, whole, Option.bind_eq_bind, Option.bind_some, search]
  cases first : coming.toList.head? with
  | none =>
      obtain rfl : coming = "" := by simpa using first
      simp
  | some c => simp

/-- Only blanks are to come, so the end is next. -/
theorem next?_between_blank (passed : String) {gap : String} (blank : IsBlankText gap)
    : (between passed gap).next? = some .finished := by
  have none : ∀ c ∈ gap.toList, (!isBlank c) = false := by simpa [IsBlankText] using blank
  have noMore : ∀ c ∈ "".toList.head?, (!isBlank c) = true := by simp
  have first := seek?_between passed none noMore
  rw [String.append_empty, between] at first
  simp only [next?, between, first, Option.bind_eq_bind, Option.bind_some, Nat.le_refl, if_true]
  rfl

/-- A word is next when blanks are before it and no letter follows it. -/
theorem next?_between_word (passed : String) {gap word rest : String} (blank : IsBlankText gap)
    (written : IsWord word) (apart : ∀ c ∈ rest.toList.head?, isBlank c = true)
    : (between passed (gap ++ (word ++ rest))).next?
      = some (.word word (between (passed ++ gap ++ word) rest)) := by
  obtain ⟨some, letters⟩ := written
  have none : ∀ c ∈ gap.toList, (!isBlank c) = false := by simpa [IsBlankText] using blank
  have starts : ∀ c ∈ (word ++ rest).toList.head?, (!isBlank c) = true := by
    obtain ⟨c, more, spelled⟩ := List.exists_cons_of_ne_nil (by simpa using some : word.toList ≠ [])
    simpa [String.toList_append, spelled] using letters c (by simp [spelled])
  have within : ¬ (passed ++ (gap ++ (word ++ rest))).utf8ByteSize
      ≤ (passed ++ gap).utf8ByteSize := by
    have size : word.utf8ByteSize ≠ 0 := by simpa using some
    simp only [String.utf8ByteSize_append]
    omega
  have first := seek?_between passed none starts
  have last := seek?_between (passed ++ gap) letters apart
  have cut := slice?_append (passed ++ gap) word rest
  simp only [between, String.append_assoc] at first last cut within ⊢
  simp only [next?, first, last, cut, Option.bind_eq_bind, Option.bind_some, if_neg within]
  rfl

end Scanner

/-- A text up to the first character that is looked for, and from there. -/
theorem exists_skipped (text : String) (wanted : Char → Bool)
    : ∃ skipped coming,
        text = skipped ++ coming
        ∧ (∀ c ∈ skipped.toList, wanted c = false)
        ∧ (∀ c ∈ coming.toList.head?, wanted c = true) := by
  refine ⟨.ofList (text.toList.takeWhile fun c => !wanted c),
    .ofList (text.toList.dropWhile fun c => !wanted c), ?_, ?_, ?_⟩
  · rw [← String.ofList_append, List.takeWhile_append_dropWhile, String.ofList_toList]
  · intro c member
    rw [String.toList_ofList] at member
    simpa using List.all_eq_true.mp List.all_takeWhile c member
  · intro c first
    rw [String.toList_ofList] at first
    have stops := List.head?_dropWhile_not (fun c => !wanted c) text.toList
    rw [first] at stops
    simpa using stops

/-- A text holds only blanks, or a word comes after the blanks that it begins with. -/
theorem blank_or_exists_word (text : String)
    : IsBlankText text
      ∨ ∃ gap word rest,
          text = gap ++ (word ++ rest)
          ∧ IsBlankText gap
          ∧ IsWord word
          ∧ ∀ c ∈ rest.toList.head?, isBlank c = true := by
  obtain ⟨gap, more, rfl, passed, starts⟩ := exists_skipped text fun c => !isBlank c
  obtain ⟨word, rest, rfl, letters, apart⟩ := exists_skipped more isBlank
  have blank : IsBlankText gap := by simpa [IsBlankText] using passed
  by_cases empty : word = ""
  · -- What follows the blanks begins in a blank and in none, so nothing does.
    subst empty
    have nothing : rest = "" := by
      rw [String.empty_append] at starts
      cases first : rest.toList.head? with
      | none => simpa using first
      | some c =>
          have unblank := starts c first
          rw [apart c first] at unblank
          cases unblank
    left
    simpa [nothing] using blank
  · exact Or.inr ⟨gap, word, rest, rfl, blank, ⟨empty, letters⟩, apart⟩

-----------------------------------------------------------------------------------------
-- All words
-----------------------------------------------------------------------------------------

namespace Scanner

/-- A scanner that comes to something stands between two characters, or at an end of the text. -/
theorem exists_between_of_next? {scanner : Scanner} {step : Step}
    (next : scanner.next? = some step)
    : ∃ passed coming, scanner = between passed coming := by
  obtain ⟨text, offset⟩ := scanner
  have valid : String.Pos.Raw.IsValid text ⟨offset⟩ := by
    apply Classical.byContradiction
    intro invalid
    simp [next?, seek?, slice?, String.pos?, String.Slice.pos?, invalid] at next
  obtain ⟨passed, coming, cut, place⟩ := String.Pos.Raw.isValid_iff_exists_append.mp valid
  obtain rfl : offset = passed.utf8ByteSize := congrArg String.Pos.Raw.byteIdx place
  exact ⟨passed, coming, by rw [cut, between]⟩

/-- How many bytes are still to be scanned. -/
def left (scanner : Scanner) : Nat :=
  scanner.text.utf8ByteSize - scanner.offset

theorem left_between (passed coming : String)
    : (between passed coming).left = coming.utf8ByteSize := by
  simp [left, between]

/-- A word moves the scanner forward, since it is passed and is not empty. -/
theorem left_lt_of_next? {scanner rest : Scanner} {word : String}
    (next : scanner.next? = some (.word word rest))
    : rest.left < scanner.left := by
  obtain ⟨passed, coming, rfl⟩ := exists_between_of_next? next
  rcases blank_or_exists_word coming with blank | ⟨gap, _, after, rfl, blank, written, apart⟩
  · rw [next?_between_blank passed blank] at next
    cases next
  · rw [next?_between_word passed blank written apart] at next
    cases next
    have size : word.utf8ByteSize ≠ 0 := by simpa using written.1
    simp only [left_between, String.utf8ByteSize_append]
    omega

/-- The words from the offset on. There are none to give when a cut fails. -/
def words? (scanner : Scanner) : Option (List String) :=
  match _ : scanner.next? with
  | none => none
  | some .finished => some []
  | some (.word word rest) => do return word :: (← rest.words?)
termination_by scanner.left
decreasing_by exact left_lt_of_next? ‹_›

end Scanner

end PenPlotter.Text
