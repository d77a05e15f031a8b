import VitaeShell.Proofs.Shell
import VitaeShell.Proofs.Shell.Request

/-!
# The shell and the session

Where the shell has no use for a line, it hands it to the session, perhaps in other words, and shows
what the session answers. It is then as if the line had been submitted to the session right away:
the shell goes on, the file system is the same, and so is the output (`Agrees`).

Of the lines that are neither blank nor opened by a question mark, and that do not name a command of
the shell to the reader of command lines, the shell treats all in this way that do not mimic one of
its words, and none of those that do: it leaves, starts over or gives help, where the session knows
of no such command.

## Main results

* `Agrees.of_request`: handing on a line that is read in the same way is agreement.
* `not_agrees_of_mimics`: there is no agreement over a line that mimics a word of the shell.
* `agrees_iff_not_mimics`: there is agreement over every other line, and only over those.
* `not_agrees_exit`: a line that only begins like `exit` ends the shell.
-/

namespace VitaeShell.Shell

open Session (Reached)

/-! ### Submitting a line -/

/-- What the shell writes for an output string, or why it cannot. -/
def shown (setting : ShellSetting) (used : Nat) (output : String) :
    Except ShellFault (List String) :=
  if output = clearSignal then .ok [clearSequence, ""]
  else
    match drawOutput setting.width used output with
    | .ok (screen, _) => .ok (printed screen.toText)
    | .error fault => .error (.draw fault)

/-- **What a submitted line leaves of a shell**, but for the number of glyphs: the session and the
clipboard are as without the shell, and the line may be forgotten. -/
theorem exists_submit_shell_eq (setting : ShellSetting) (shell : Shell) (line : String) :
    let step := shell.session.submitLine setting.toSetting shell.clipboard line
    ∃ glyphs, (shell.submit setting line).shell =
      { shell with
        session := step.session
        clipboard := step.clipboard
        recallable :=
          if step.session.history.entries.length ≠ shell.session.history.entries.length then
            shell.recallable
          else shell.recallable.map (dropLast line)
        glyphs := glyphs } := by
  intro step
  rw [submit]
  -- whether the line is recorded and whether its answer can be drawn are settled apart
  by_cases hrecorded : step.session.history.entries.length ≠ shell.session.history.entries.length
  · rw [if_pos hrecorded, if_pos hrecorded]
    split
    · exact ⟨_, rfl⟩
    · cases drawOutput setting.width shell.glyphs step.result with
      | ok drawing => exact ⟨drawing.2, rfl⟩
      | error fault => exact ⟨_, rfl⟩
  · rw [if_neg hrecorded, if_neg hrecorded]
    split
    · exact ⟨_, rfl⟩
    · cases drawOutput setting.width shell.glyphs step.result with
      | ok drawing => exact ⟨drawing.2, rfl⟩
      | error fault => exact ⟨_, rfl⟩

/-- A submitted line leads the session where it leads without the shell. -/
theorem submit_session (setting : ShellSetting) (shell : Shell) (line : String) :
    (shell.submit setting line).shell.session =
      (shell.session.submitLine setting.toSetting shell.clipboard line).session := by
  obtain ⟨glyphs, hshell⟩ := exists_submit_shell_eq setting shell line
  rw [hshell]

/-- What is written for a line is what is shown for its output. -/
theorem submit_shown (setting : ShellSetting) (shell : Shell) (line : String) :
    ((shell.submit setting line).result.map fun _ => (shell.submit setting line).writes) =
      shown setting shell.glyphs
        (shell.session.submitLine setting.toSetting shell.clipboard line).result := by
  rw [submit, shown]
  generalize shell.session.submitLine setting.toSetting shell.clipboard line = step
  by_cases hclear : step.result = clearSignal
  · rw [if_pos hclear, if_pos hclear]
    rfl
  · rw [if_neg hclear, if_neg hclear]
    cases drawOutput setting.width shell.glyphs step.result with
    | ok drawing => rfl
    | error fault => rfl

/-- What a line answers, and where it leads, depends on how it is read. -/
theorem submitLine_congr {line line' : String}
    (h : CommandLine.parse line = CommandLine.parse line') (setting : Setting) (s : Session)
    (clipboard : Clipboard) :
    (s.submitLine setting clipboard line).result = (s.submitLine setting clipboard line').result ∧
      (s.submitLine setting clipboard line).session.fs =
        (s.submitLine setting clipboard line').session.fs := by
  rw [Session.submitLine_result, Session.submitLine_result, Session.submitLine_fs,
    Session.submitLine_fs, h]
  exact ⟨rfl, rfl⟩

/-! ### Agreement -/

/-- The shell **agrees** with its session about a line: what it does comes to submitting it. -/
structure Agrees (setting : ShellSetting) (shell : Shell) (line : String) : Prop where
  /-- The shell is not left. -/
  goes_on : (shell.dispatch setting line).result ≠ .ok (some true)
  /-- The file system is what the session would make of it. -/
  fs_eq : (shell.dispatch setting line).shell.session.fs =
    (shell.session.submitLine setting.toSetting shell.clipboard line).session.fs
  /-- The session is asked, and answers the same string. -/
  exists_handed : ∃ handed,
    shell.dispatch setting line = undecided ((shell.noted line).submit setting handed) ∧
    (shell.session.submitLine setting.toSetting shell.clipboard handed).result =
      (shell.session.submitLine setting.toSetting shell.clipboard line).result
  /-- That string is shown. -/
  shown_eq :
    ((shell.dispatch setting line).result.map fun _ => (shell.dispatch setting line).writes) =
      shown setting shell.glyphs
        (shell.session.submitLine setting.toSetting shell.clipboard line).result

variable {setting : ShellSetting} {shell : Shell} {line : String}

/-- A run that does not decide whether to go on does not leave. -/
theorem undecided_ne (run : Run Unit) : (undecided run).result ≠ .ok (some true) := by
  rw [undecided]
  cases run.result with
  | ok value => simp [Except.map]
  | error fault => simp [Except.map]

/-- It writes what it wrote. -/
theorem map_undecided (run : Run Unit) :
    ((undecided run).result.map fun _ => (undecided run).writes) =
      run.result.map fun _ => run.writes := by
  rw [undecided]
  cases run.result <;> rfl

/-- Handing on a line that is read in the same way is agreement. -/
theorem Agrees.of_request {handed : String} (hrequest : request line = .submit handed)
    (hparse : CommandLine.parse handed = CommandLine.parse line) : Agrees setting shell line := by
  obtain ⟨hresult, hfs⟩ :=
    submitLine_congr hparse setting.toSetting shell.session shell.clipboard
  have hdispatch : shell.dispatch setting line =
      undecided ((shell.noted line).submit setting handed) := by
    rw [dispatch_eq_perform, hrequest, perform]
  constructor
  · rw [hdispatch]
    exact undecided_ne _
  · rw [hdispatch, ← hfs]
    exact congrArg Session.fs (submit_session setting (shell.noted line) handed)
  · exact ⟨handed, hdispatch, hresult⟩
  · rw [hdispatch, map_undecided, submit_shown, ← hresult]
    rfl

/-! ### Lines that mimic a word of the shell -/

/-- No command goes on behind a word of the shell. -/
theorem eq_of_prefix_name (b : Builtin) :
    ∀ word ∈ ownWords, word.toList.flatMap Text.lowerLetter <+: b.name.toList →
      word.toList.flatMap Text.lowerLetter = b.name.toList := by
  cases b <;> decide

/-- To say that a command is not known is not to clear the screen. -/
theorem unknownMessage_ne_clearSignal (name : String) :
    Registry.unknownMessage name ≠ clearSignal :=
  have hapart : Text.Apart troubleOpening clearSignal := by decide
  hapart.ne (Registry.startsWith_unknownMessage name) (Text.startsWith_self _)

section Mimicry

variable (hmark : (Text.trim line.toList).head? ≠ some '?')

include hmark

/-- A line that mimics a word of the shell has one in front. -/
theorem Mimics.frontWord_mem (h : Mimics line) : frontWord line ∈ ownWords := by
  have hown := h.1
  rwa [splitCommand_of_head? hmark] at hown

/-- No command has the name that the reader finds in a line that mimics a word of the shell. -/
theorem Mimics.name_ne (h : Mimics line) (b : Builtin) :
    b.name ≠ (CommandLine.parse line).command := by
  have hown := h.frontWord_mem hmark
  obtain ⟨more, rest, -, hmimics, hparse⟩ := exists_parse_eq hmark hown
  intro heq
  obtain ⟨tail, htail, hnil⟩ := exists_lower_ownWord hown more
  have hname : b.name.toList = (frontWord line).toList.flatMap Text.lowerLetter ++ tail := by
    rw [heq, hparse, Text.toList_lowercase, String.toList_ofList, htail]
  have hwhole := eq_of_prefix_name b _ hown ⟨tail, hname.symm⟩
  rw [hname, List.self_eq_append_right, hnil] at hwhole
  exact hmimics.mp h hwhole

variable (hregistry : setting.registry = Builtin.registry)

include hregistry

/-- **The session has no command for a line that mimics a word of the shell.** -/
theorem Mimics.exists_result_eq (h : Mimics line) (s : Session) (clipboard : Clipboard) :
    ∃ name, (s.submitLine setting.toSetting clipboard line).result =
      Registry.unknownMessage name := by
  rw [Session.submitLine_result, hregistry, Builtin.run_of_forall_ne (h.name_ne hmark)]
  exact ⟨_, rfl⟩

omit hmark in
/-- Help is an answer, whatever it is asked about. -/
theorem result_helpLine_ne (typed argument name : String) (s : Session) (clipboard : Clipboard) :
    (s.submitLine setting.toSetting clipboard (helpLine typed argument)).result ≠
      Registry.unknownMessage name := by
  have hanswer : (Builtin.help.action (tokens argument) s.fs clipboard).1 =
      .ok ⟨Builtin.runHelp (tokens argument), s.fs⟩ := rfl
  have hrun := Builtin.run_of_action_eq_ok hanswer
  rw [Session.submitLine_result, hregistry, parse_helpLine]
  change (Builtin.registry.run ⟨Builtin.help.name, tokens argument⟩ _ _).answer.output ≠ _
  rw [hrun]
  exact (Builtin.answers_action hanswer).ne_of_trouble (Registry.startsWith_unknownMessage name)

/-- **There is no agreement over a line that mimics a word of the shell.** The shell leaves, starts
over or gives help. -/
theorem not_agrees_of_mimics (hblank : Text.isBlankText line = false) (h : Mimics line) :
    ¬Agrees setting shell line := by
  rintro ⟨hgoes, -, ⟨handed, hdispatch, hresult⟩, -⟩
  obtain ⟨name, hname⟩ := h.exists_result_eq hmark hregistry shell.session shell.clipboard
  -- were there agreement, this is what the log would end with
  have hlog : (shell.dispatch setting line).shell.session.log =
      shell.session.log ++ [Session.echo handed, Registry.unknownMessage name] := by
    have hanswer := hresult.trans hname
    have hsession : (shell.dispatch setting line).shell.session =
        (shell.session.submitLine setting.toSetting shell.clipboard handed).session := by
      rw [hdispatch]
      exact submit_session setting (shell.noted line) handed
    rw [hsession, Session.submitLine_log, hanswer, if_neg (unknownMessage_ne_clearSignal name)]
  rw [dispatch_eq_perform, request_eq hmark hblank] at hgoes hlog
  have hown := h.frontWord_mem hmark
  simp only [ownWords, List.mem_cons, List.not_mem_nil, or_false] at hown
  rcases hown with hword | hword | hword | hword | hword
  · rw [hword] at hlog
    have hhelp : ((shell.noted line).submit setting (helpLine line (String.ofList (Text.trim
        ((Text.trim line.toList).dropWhile isShellChar))))).shell.session.log =
          shell.session.log ++ [Session.echo handed, Registry.unknownMessage name] := hlog
    rw [submit_session, Session.submitLine_log] at hhelp
    split at hhelp
    · simp at hhelp
    · have hlast := List.append_cancel_left hhelp
      simp only [List.cons.injEq, and_true] at hlast
      exact result_helpLine_ne hregistry _ _ name _ _ hlast.2
  · rw [hword] at hlog
    have hstart : ([] : List String) =
        shell.session.log ++ [Session.echo handed, Registry.unknownMessage name] := hlog
    simp at hstart
  · rw [hword] at hgoes
    exact hgoes rfl
  · rw [hword] at hgoes
    exact hgoes rfl
  · rw [hword] at hgoes
    exact hgoes rfl

end Mimicry

/-! ### All lines -/

/-- Where there is agreement, the shell has a result whenever the answer can be shown. -/
theorem Agrees.result_eq (h : Agrees setting shell line)
    (hregistry : setting.registry = Builtin.registry) (hdocument : setting.document.Checked)
    (hshell : Reached setting.toSetting shell.session) :
    (shell.dispatch setting line).result = .ok none := by
  have hsetting : setting.toSetting = ⟨setting.document, Builtin.registry⟩ := by rw [← hregistry]
  rw [hsetting] at hshell
  obtain ⟨drawing, hdrawing⟩ := exists_drawOutput_submitLine hdocument setting.width hshell
    shell.clipboard line shell.glyphs
  obtain ⟨writes, hwrites⟩ : ∃ writes, shown setting shell.glyphs
      (shell.session.submitLine setting.toSetting shell.clipboard line).result = .ok writes := by
    rw [shown]
    split
    · exact ⟨_, rfl⟩
    · rw [hsetting, hdrawing]
      exact ⟨_, rfl⟩
  obtain ⟨handed, hdispatch, -⟩ := h.exists_handed
  have hrun := h.shown_eq.trans hwrites
  rw [hdispatch, map_undecided] at hrun
  rw [hdispatch, undecided]
  generalize ((shell.noted line).submit setting handed).result = result at *
  cases result with
  | ok value => rfl
  | error fault => cases hrun

/-- **The shell agrees with its session about every line but those that mimic.** Take a line that is
not blank, has no question mark in front, and does not name a command of the shell to the reader of
command lines. If it mimics no word of the shell, the shell goes on, and the file system and what is
shown are those of submitting the line; over a checked document there is always something to show.
If it mimics one, that is not so. -/
theorem agrees_iff_not_mimics {setting : ShellSetting}
    (hregistry : setting.registry = Builtin.registry) (shell : Shell) {line : String}
    (hblank : Text.isBlankText line = false) (hmark : (Text.trim line.toList).head? ≠ some '?')
    (hname : (CommandLine.parse line).command ∉ ["refresh", "exit", "quit", "eof"]) :
    (Agrees setting shell line ↔ ¬Mimics line) ∧
      (¬Mimics line → setting.document.Checked → Reached setting.toSetting shell.session →
        (shell.dispatch setting line).result = .ok none) := by
  have hagrees (hgenuine : ¬Mimics line) : Agrees setting shell line := by
    obtain ⟨handed, hrequest, hparse⟩ := exists_request_eq_submit hmark hblank hname hgenuine
    exact .of_request hrequest hparse
  refine ⟨⟨fun h hmimics => ?_, hagrees⟩, fun hgenuine hdocument hshell => ?_⟩
  · exact not_agrees_of_mimics hmark hregistry hblank hmimics h
  · exact (hagrees hgenuine).result_eq hregistry hdocument hshell

/-- A quote ends the first word for the reader as it does for the shell. -/
theorem agrees_help_quoted :
    let setting := usual (.ofResume .sample) 80
    setting.registry = Builtin.registry ∧ Text.isBlankText "help\"pwd\"" = false ∧
      (Text.trim "help\"pwd\"".toList).head? ≠ some '?' ∧
      (CommandLine.parse "help\"pwd\"").command ∉ ["refresh", "exit", "quit", "eof"] ∧
      ¬Mimics "help\"pwd\"" ∧ setting.document.Checked ∧
      Reached setting.toSetting opened.session ∧ Agrees setting opened "help\"pwd\"" ∧
      (opened.dispatch setting "help\"pwd\"").result = .ok none := by
  intro setting
  have hblank : Text.isBlankText "help\"pwd\"" = false := by decide
  have hmark : (Text.trim "help\"pwd\"".toList).head? ≠ some '?' := by decide
  have hname : (CommandLine.parse "help\"pwd\"").command ∉ ["refresh", "exit", "quit", "eof"] := by
    decide +kernel
  have hgenuine : ¬Mimics "help\"pwd\"" := by decide +kernel
  have hchecked : setting.document.Checked := ⟨.sample, rfl⟩
  have hreached : Reached setting.toSetting opened.session := .start
  have hregistry : setting.registry = Builtin.registry := rfl
  obtain ⟨hagrees, hresult⟩ := agrees_iff_not_mimics hregistry opened hblank hmark hname
  exact ⟨hregistry, hblank, hmark, hname, hgenuine, hchecked, hreached, hagrees.mpr hgenuine,
    hresult hgenuine hchecked hreached⟩

/-- **The shell is left over a line that only begins like `exit`**, though the session answers that
there is no such command. -/
theorem not_agrees_exit :
    let setting := usual (.ofResume .sample) 80
    Text.isBlankText "exit!" = false ∧ (Text.trim "exit!".toList).head? ≠ some '?' ∧
      (CommandLine.parse "exit!").command ∉ ["refresh", "exit", "quit", "eof"] ∧
      (opened.session.submitLine setting.toSetting opened.clipboard "exit!").result =
        Registry.unknownMessage "exit!" ∧
      (opened.dispatch setting "exit!").result = .ok (some true) ∧
      ¬Agrees setting opened "exit!" := by
  intro setting
  have hleave : (opened.dispatch setting "exit!").result = .ok (some true) := by
    have hrequest : request "exit!" = .leave false := by decide
    rw [dispatch_eq_perform, hrequest]
    rfl
  have hparse : CommandLine.parse "exit!" = ⟨"exit!", []⟩ := by decide +kernel
  have hanswer : (opened.session.submitLine setting.toSetting opened.clipboard "exit!").result =
      Registry.unknownMessage "exit!" := by
    rw [Session.submitLine_result, hparse]
    rfl
  exact ⟨by decide, by decide, by rw [hparse]; decide, hanswer, hleave,
    fun h => h.goes_on hleave⟩

end VitaeShell.Shell
