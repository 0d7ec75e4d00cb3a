import PenPlotter.Proofs.Editing.Moments
import PenPlotter.Proofs.Files.Writing

/-!
Programs kept in files. What was saved is loaded again as long as nothing is written, whatever else
happens in the session. A file is loaded exactly when its bytes are well formed, as the text that
has just those bytes, and loading never changes a file.
-/

namespace PenPlotter

/-- Whether files may be written in a moment: the user saves, or something else changes them. -/
def Moment.writes : Moment → Bool
  | .event (.act .save) | .event (.filesChange _) => true
  | .event (.act _) | .typing _ => false

namespace Workspace

theorem files_afterMoment (workspace : Workspace) {moment : Moment} (still : moment.writes = false)
    : (workspace.afterMoment moment).files = workspace.files := by
  cases moment with
  | typing command => rfl
  | event event =>
      cases event with
      | filesChange files => cases still
      | act action => cases action <;> first | rfl | cases still

/-- Nothing is written in a session in which no moment writes, by induction on the moments. -/
theorem files_afterMoments (workspace : Workspace) {moments : List Moment}
    (still : ∀ moment ∈ moments, moment.writes = false)
    : (workspace.afterMoments moments).files = workspace.files := by
  induction moments generalizing workspace with
  | nil => rfl
  | cons moment moments ih =>
      obtain ⟨now, later⟩ := List.forall_mem_cons.mp still
      exact (ih (workspace.afterMoment moment) later).trans (workspace.files_afterMoment now)

theorem files_save {workspace : Workspace} {saved : FileTree}
    (saves : workspace.files.save workspace.editor.path workspace.editor.source = .ok saved)
    : (workspace.act .save).files = saved := by
  rw [act, saves]

theorem source_of_load {workspace : Workspace} {text : String}
    (loads : workspace.files.load workspace.editor.path = .ok text)
    : (workspace.act .load).editor.source = text := by
  rw [act, edit, loads]
  rfl

/-- Storage is exact. A text that was saved is what is loaded under the same path, after any moments
in which nothing is written, and loading puts it back into the editor. Of a file's bytes a text is
loaded exactly when they are its UTF-8, some text is loaded exactly when they are well formed, and
otherwise reading fails, as it does when the bytes cannot be had. Loading changes no file.
-/
theorem storage_is_exact (workspace : Workspace) (path : String)
    : (∀ text saved moments,
        workspace.files.save path text = .ok saved
        → (∀ moment ∈ moments, Moment.writes moment = false)
        → (afterMoments { workspace with files := saved } moments).files.load path = .ok text)
      ∧ (∀ saved moments,
          workspace.files.save workspace.editor.path workspace.editor.source = .ok saved
          → (∀ moment ∈ moments, Moment.writes moment = false)
          → let later := (workspace.act .save).afterMoments moments
            let back := (later.act (.setPath workspace.editor.path)).act .load
            back.editor.source = workspace.editor.source)
      ∧ (∀ bytes,
          workspace.files.readBytes path = .ok bytes.toByteArray
          → (∀ text, workspace.files.load path = .ok text ↔ text.toUTF8 = bytes.toByteArray)
            ∧ ((∃ text, workspace.files.load path = .ok text) ↔ Utf8.WellFormed bytes)
            ∧ (¬ Utf8.WellFormed bytes
              → workspace.files.load path = .error (.read path .notText)))
      ∧ (∀ cause,
          workspace.files.readBytes path = .error cause
          → workspace.files.load path = .error (.read path cause))
      ∧ (workspace.act .load).files = workspace.files := by
  refine ⟨?_, ?_, ?_, ?_, rfl⟩
  · intro text saved moments saves still
    rw [files_afterMoments _ still]
    exact FileTree.load_of_save saves
  · intro saved moments saves still later back
    have kept : later.files = saved :=
      (files_afterMoments _ still).trans (files_save saves)
    apply source_of_load
    change later.files.load workspace.editor.path = .ok workspace.editor.source
    rw [kept]
    exact FileTree.load_of_save saves
  · intro bytes held
    refine ⟨?_, FileTree.exists_load_iff held, FileTree.load_of_not_wellFormed held⟩
    intro text
    rw [FileTree.load_eq_ok_iff, held, Except.ok.injEq, eq_comm]
  · intro cause fails
    exact FileTree.load_of_readBytes_error fails

/-- A text with a character that ends strings elsewhere, a carriage return before a line feed and a
character of four bytes; and a file that holds half of a surrogate pair.
-/
theorem storage_is_exact_sample
    : let files : FileTree :=
        ⟨[(["h", ""], .file [0xED, 0xA0, 0x80].toByteArray), (.working, .folder), (.top, .folder)]⟩
      let text := "\x00a\r\n𝄞"
      let workspace : Workspace := ⟨{ Editor.fresh {} with source := text, path := "e" }, files⟩
      let saved := files.put ["e", ""] (.file text.toUTF8)
      let moments : List Moment :=
        [.typing "clear", .event (.act (.setPath "h")), .event (.act .load)]
      let later := (workspace.act .save).afterMoments moments
      files.save "e" text = .ok saved
      ∧ (∀ moment ∈ moments, moment.writes = false)
      ∧ (afterMoments { workspace with files := saved } moments).files.load "e" = .ok text
      ∧ ((later.act (.setPath "e")).act .load).editor.source = text
      ∧ files.readBytes "h" = .ok [0xED, 0xA0, 0x80].toByteArray
      ∧ ¬ Utf8.WellFormed [0xED, 0xA0, 0x80]
      ∧ files.load "h" = .error (.read "h" .notText)
      ∧ files.readBytes "e" = .error .notFound
      ∧ files.load "e" = .error (.read "e" .notFound) := by
  intro files text workspace saved moments later
  have saves : files.save "e" text = .ok saved := by
    subst saved files text
    rfl
  have still : ∀ moment ∈ moments, moment.writes = false := by
    subst moments
    simp [Moment.writes]
  have held : files.readBytes "h" = .ok [0xED, 0xA0, 0x80].toByteArray := by
    subst files
    rfl
  have absent : files.readBytes "e" = .error .notFound := by
    subst files
    rfl
  have malformed : ¬ Utf8.WellFormed [0xED, 0xA0, 0x80] := by
    rw [Utf8.wellFormed_iff_toUTF8]
    rintro ⟨text, same⟩
    have unread : String.fromUTF8? [0xED, 0xA0, 0x80].toByteArray = none := by decide +kernel
    rw [Utf8.fromUTF8?_eq_some_iff.mpr same] at unread
    cases unread
  obtain ⟨kept, back, -, missing, -⟩ := storage_is_exact workspace "e"
  obtain ⟨-, -, bytes, -⟩ := storage_is_exact workspace "h"
  exact ⟨saves, still, kept text saved moments saves still, back saved moments saves still,
    held, malformed, (bytes _ held).2.2 malformed, absent, missing _ absent⟩

end Workspace

end PenPlotter
