import PenPlotter.Editor.View
import PenPlotter.Proofs.Editing.Moments
import PenPlotter.Proofs.Plotting.Turns

/-!
The messages of a session. Every failure of the library becomes an error among the messages, and
nothing else does. Messages are only ever added, so their errors are all failures so far, which is
what the name of the third tab counts, and the status shows the failure that came last.
-/

namespace PenPlotter

namespace Verdict

/-- The errors among the messages of a verdict are its reasons. -/
theorem countP_messages (verdict : Verdict)
    : verdict.messages.countP Message.isError = verdict.reasons.length := by
  rcases verdict with texts | (_ | said)
  · simp [messages, Verdict.reasons, List.countP_map, Function.comp_def, Message.isError]
  · rfl
  · rfl

theorem countP_flatMap_messages (verdicts : List Verdict)
    : (verdicts.flatMap messages).countP Message.isError
      = (verdicts.flatMap reasons).length := by
  rw [List.countP_flatMap, List.length_flatMap]
  exact congrArg List.sum (List.map_congr_left fun verdict _ => verdict.countP_messages)

theorem length_messages_ofRun (result : Except RunError Unit)
    : (ofRun result).messages.length = 1 := by
  cases result <;> rfl

theorem length_messages_ofStore {α : Type} (done path : String) (result : Except StoreError α)
    : (ofStore done path result).messages.length = 1 := by
  cases result <;> rfl

theorem ofRun_ne_failed_nil (result : Except RunError Unit) : ofRun result ≠ .failed [] := by
  cases result <;> simp [ofRun]

/-- A check fails only if there is a violation. -/
theorem ofCheck_ne_failed_nil (report : FormReport) : ofCheck report ≠ .failed [] := by
  rw [ofCheck]
  split
  next => simp
  next malformed => simpa [FormReport.isValid] using malformed

theorem ofCommand_ne_failed_nil (line : String) (result : Except RunError Unit)
    : ofCommand line result ≠ .failed [] := by
  cases result <;> simp [ofCommand]

theorem ofStore_ne_failed_nil {α : Type} (done path : String) (result : Except StoreError α)
    : ofStore done path result ≠ .failed [] := by
  cases result <;> simp [ofStore]

end Verdict

namespace Editor

/-- The status shows the last of the errors that came last. -/
theorem statusText_of_errors {editor : Editor} {earlier : List Message} {reasons : List String}
    {last : String} (told : editor.messages = earlier ++ reasons.map .error)
    (final : reasons.getLast? = some last)
    : editor.statusText = "✗  " ++ last := by
  have latest : editor.messages.getLast? = some (.error last) := by
    rw [told, List.getLast?_append, List.getLast?_map, final]
    rfl
  simp [statusText, lastError?, latest, Option.filter, Message.isError, Message.text]

end Editor

namespace Workspace

/-- What the library makes of an action: of the program, the command or the file that it is given.
Nothing is asked of it when a field is typed in or a tab is opened.
-/
def verdict (workspace : Workspace) : Action → Verdict
  | .run => .ofRun (workspace.editor.plotter.run workspace.editor.source).result
  | .check => .ofCheck (FormReport.ofProgram workspace.editor.source)
  | .clearCanvas => .ofCommand "clear" (workspace.editor.plotter.runCommand "clear").result
  | .load =>
      .ofStore "loaded " workspace.editor.path (workspace.files.load workspace.editor.path)
  | .save =>
      .ofStore "saved " workspace.editor.path
        (workspace.files.save workspace.editor.path workspace.editor.source)
  | .enter line => .ofCommand line (workspace.editor.plotter.runCommand line).result
  | .setSource _ | .setPath _ | .openTab _ => .succeeded none

/-- Wiping the canvas never fails. -/
theorem verdict_clearCanvas (workspace : Workspace)
    : workspace.verdict .clearCanvas = .succeeded none := by
  rw [verdict, Plotter.runCommand_clear]
  rfl

/-- Running, loading and saving are told of in one message each. -/
theorem length_messages_verdict (workspace : Workspace) {action : Action}
    (one : action ∈ [.run, .load, .save])
    : (workspace.verdict action).messages.length = 1 := by
  simp only [List.mem_cons, List.not_mem_nil, or_false] at one
  rcases one with rfl | rfl | rfl
  · exact Verdict.length_messages_ofRun _
  · exact Verdict.length_messages_ofStore _ _ _
  · exact Verdict.length_messages_ofStore _ _ _

/-- What fails has a reason, by cases on the action. -/
theorem verdict_ne_failed_nil (workspace : Workspace) (action : Action)
    : workspace.verdict action ≠ .failed [] := by
  cases action with
  | run => exact Verdict.ofRun_ne_failed_nil _
  | check => exact Verdict.ofCheck_ne_failed_nil _
  | clearCanvas => simp [verdict_clearCanvas]
  | load => exact Verdict.ofStore_ne_failed_nil _ _ _
  | save => exact Verdict.ofStore_ne_failed_nil _ _ _
  | enter line => exact Verdict.ofCommand_ne_failed_nil _ _
  | setSource _ | setPath _ | openTab _ => exact Verdict.noConfusion

/-- An action adds the messages of its verdict, by cases on the action. -/
theorem messages_act (workspace : Workspace) (action : Action)
    : (workspace.act action).editor.messages
      = workspace.editor.messages ++ (workspace.verdict action).messages := by
  cases action with
  | setSource text => exact (List.append_nil _).symm
  | setPath path => exact (List.append_nil _).symm
  | run => exact workspace.editor.messages_run
  | check => simp only [act, edit, Editor.check_eq, verdict]
  | clearCanvas =>
      simp only [act, edit, Editor.clearCanvas_eq, verdict_clearCanvas]
      exact (List.append_nil _).symm
  | load => exact workspace.editor.messages_loaded _
  | save =>
      rw [editor_save, Editor.saved_eq, verdict]
      cases workspace.files.save workspace.editor.path workspace.editor.source <;> rfl
  | enter line => simp only [act, edit, Editor.submit_eq, verdict]
  | openTab tab => exact (List.append_nil _).symm

/-- The tab that an action leaves open. Only violations turn to the messages by themselves. -/
def tabAfter (workspace : Workspace) : Action → Tab
  | .openTab tab => tab
  | .check =>
      if (FormReport.ofProgram workspace.editor.source).isValid then workspace.editor.tab
      else .messages
  | _ => workspace.editor.tab

theorem tab_act (workspace : Workspace) (action : Action)
    : (workspace.act action).editor.tab = workspace.tabAfter action := by
  cases action with
  | run => simp only [act, edit, Editor.run_eq, tabAfter]
  | check => simp only [act, edit, Editor.check_eq, tabAfter]
  | clearCanvas => simp only [act, edit, Editor.clearCanvas_eq, tabAfter]
  | load => simp only [act, edit, Editor.loaded_eq, tabAfter]
  | save => simp only [editor_save, Editor.saved_eq, tabAfter]
  | enter line => simp only [act, edit, Editor.submit_eq, tabAfter]
  | setSource _ | setPath _ | openTab _ => rfl

/-- After a failure the status shows it, and of several the last. -/
theorem statusText_of_failed {workspace : Workspace} {action : Action} {reasons : List String}
    (failed : workspace.verdict action = .failed reasons)
    : ∃ last ∈ reasons.getLast?, (workspace.act action).editor.statusText = "✗  " ++ last := by
  have added := workspace.messages_act action
  rw [failed] at added
  cases final : reasons.getLast? with
  | none =>
      rw [List.getLast?_eq_none_iff.mp final] at failed
      exact absurd failed (workspace.verdict_ne_failed_nil action)
  | some last => exact ⟨last, rfl, Editor.statusText_of_errors added final⟩

-----------------------------------------------------------------------------------------
-- Whole sessions
-----------------------------------------------------------------------------------------

/-- The verdicts on the start: on reading the program if its file is there, and then on running it
if it is to be run.
-/
def openingVerdicts (settings : Settings) (files : FileTree) : List Verdict :=
  let outcome := files.load settings.programPath
  if files.holds settings.programPath then
    .ofStore "loaded " settings.programPath outcome
      :: if settings.runOnStart then
        [.ofRun (Plotter.record (outcome.toOption.getD Editor.sample)).result]
      else []
  else []

def verdictsOn (workspace : Workspace) : Moment → List Verdict
  | .event (.act action) => [workspace.verdict action]
  | .event (.filesChange _) | .typing _ => []

theorem messages_start (settings : Settings) (files : FileTree)
    : (start settings files).editor.messages
      = (openingVerdicts settings files).flatMap Verdict.messages := by
  rw [openingVerdicts]
  cases found : files.holds settings.programPath with
  | false =>
      rw [start_of_absent found]
      rfl
  | true =>
      cases asked : settings.runOnStart with
      | false =>
          rw [start_of_found found asked, Editor.messages_loaded]
          exact (List.append_nil _).symm
      | true =>
          rw [start_of_run found asked, Editor.messages_run, Editor.messages_loaded,
            Editor.plotter_loaded, Editor.source_loaded]
          rw [if_pos rfl, if_pos rfl, List.flatMap_cons, List.flatMap_singleton]
          rfl

theorem messages_afterMoment (workspace : Workspace) (moment : Moment)
    : (workspace.afterMoment moment).editor.messages
      = workspace.editor.messages ++ (workspace.verdictsOn moment).flatMap Verdict.messages := by
  cases moment with
  | event event =>
      cases event with
      | act action =>
          rw [verdictsOn, List.flatMap_singleton]
          exact workspace.messages_act action
      | filesChange files => exact (List.append_nil _).symm
  | typing command => exact (List.append_nil _).symm

/-- No failure is swallowed. After any start and any moments, the messages are those of all verdicts
so far, in order, and the name of the third tab tells how many failures are among them, if any. An
action adds the messages of its verdict to those there were: for a run, a load or a save one, an
error just when it failed; for a check its report, or an error for each violation, which alone turns
to the messages; for a command an error just when it failed, and the field is empty in any case; and
nothing for wiping, which never fails, and all else. After a failure the status shows it, and of
several the last.
-/
theorem no_failure_is_swallowed (settings : Settings) (files : FileTree)
    (moments : List Moment)
    : let opened := start settings files
      let workspace := opened.afterMoments moments
      let verdicts := openingVerdicts settings files ++ opened.gather verdictsOn moments
      let failures := verdicts.flatMap Verdict.reasons
      workspace.editor.messages = verdicts.flatMap Verdict.messages
      ∧ workspace.editor.messagesLabel
        = (if failures = [] then "Messages"
          else "Messages (" ++ toString failures.length ++ ")")
      ∧ workspace.verdict .clearCanvas = .succeeded none
      ∧ ∀ action,
          let next := (workspace.act action).editor
          next.messages = workspace.editor.messages ++ (workspace.verdict action).messages
          ∧ (action ∈ [.run, .load, .save] → (workspace.verdict action).messages.length = 1)
          ∧ next.tab = workspace.tabAfter action
          ∧ (∀ line, action = .enter line → next.command = "")
          ∧ ∀ reasons,
              workspace.verdict action = .failed reasons
              → ∃ last ∈ reasons.getLast?, next.statusText = "✗  " ++ last := by
  intro opened workspace verdicts failures
  have told : workspace.editor.messages = verdicts.flatMap Verdict.messages := by
    rw [List.flatMap_append, ← messages_start]
    exact afterMoments_appends (fun workspace => workspace.editor.messages)
      messages_afterMoment opened moments
  have counted : workspace.editor.errorCount = failures.length := by
    rw [Editor.errorCount, told]
    exact Verdict.countP_flatMap_messages verdicts
  refine ⟨told, ?_, workspace.verdict_clearCanvas, ?_⟩
  · rw [Editor.messagesLabel, counted]
    simp only [List.length_eq_zero_iff]
  · intro action next
    refine ⟨workspace.messages_act action, workspace.length_messages_verdict,
      workspace.tab_act action, ?_, ?_⟩
    · intro line entered
      subst entered
      simp only [next, act, edit, Editor.submit_eq]
    · intro reasons failed
      exact statusText_of_failed failed

/-- A program that cannot be read is told of, and then the last of two malformed lines. -/
theorem no_failure_is_swallowed_sample
    : let moments : List Moment :=
        [.event (.act (.setSource "foo\nfill 2")), .event (.act .load)]
      let workspace := (start {} .empty).afterMoments moments
      let reasons :=
        ["line 1: [P001] unknown command `foo`",
          "line 2: [P003] `fill` argument 1 is invalid: `2`"]
      workspace.editor.messagesLabel = "Messages (1)"
      ∧ (workspace.verdict .load).messages.length = 1
      ∧ (workspace.act (.enter "fill 2")).editor.command = ""
      ∧ workspace.verdict .check = .failed reasons
      ∧ (workspace.act .check).editor.statusText
        = "✗  line 2: [P003] `fill` argument 1 is invalid: `2`" := by
  intro moments workspace reasons
  have failed : workspace.verdict .check = .failed reasons := by decide +kernel
  obtain ⟨-, label, -, acts⟩ := no_failure_is_swallowed {} .empty moments
  obtain ⟨-, -, -, -, status⟩ := acts .check
  obtain ⟨last, final, shown⟩ := status reasons failed
  obtain ⟨-, one, -⟩ := acts .load
  obtain ⟨-, -, -, emptied, -⟩ := acts (.enter "fill 2")
  refine ⟨label.trans (by decide +kernel), one (by simp), emptied _ rfl, failed, ?_⟩
  cases final
  exact shown

end Workspace

end PenPlotter
