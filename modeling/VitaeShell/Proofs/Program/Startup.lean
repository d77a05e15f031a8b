import VitaeShell.Program
import VitaeShell.Proofs.Shell.Agreement

/-!
# The startup script and the shell

The lines of a startup script are submitted to the session by the program itself, without a shell. A
script that stands where a shell stands (`Mirrors`) does with a line what the shell does, if the
shell has no use of its own for the line (`Shell.PassesOn`): afterwards the two stand at the same
point again, and what went out is the same. There is one exception. Where a command answers with the
signal for an empty screen, the shell clears the screen, and the script shows the signal as a text.

## Main results

* `Mirrors.runScriptLine`, `Mirrors.runScriptLines`: a script leads to where the shell is led by the
  lines that are run, be it one line or many.
* `submitScriptLine_eq_sent`: what goes out of a line is the same, but for the signal.
* `submitScriptLine_trace_ne`: the signal is shown, and the screen is not cleared.
* `runStartup_mirrors`: a script of one line comes to what the shell comes to, but for `clear`.
-/

namespace VitaeShell

/-- Without carriage returns a text from a file is the text in the file. -/
theorem Text.normalizeNewlines_eq_self {cs : List Char} (h : '\r' ∉ cs) :
    normalizeNewlines cs = cs := by
  induction cs with
  | nil => rfl
  | cons c cs ih =>
      obtain ⟨hc, hcs⟩ : '\r' ≠ c ∧ '\r' ∉ cs := by simpa using h
      rw [normalizeNewlines, if_neg (Ne.symm hc), ih hcs]
      rintro rest rfl
      exact absurd rfl hc

/-! ### What goes out of a run -/

/-- What goes out of a run: its notices, and the pieces that it writes up to one that cannot go out.
The fault is why the program breaks off. -/
def Run.sent {α : Type} (run : Run α) (trace : Trace) : Trace × Option ProgramFault :=
  match (trace.report run.notices).write run.writes, run.result with
  | (trace, some fault), _ => (trace, some fault)
  | (trace, none), .error fault => (trace, some (.shell fault))
  | (trace, none), .ok _ => (trace, none)

/-- What goes out is the notices and then the pieces. -/
theorem Run.sent_fst {α : Type} (run : Run α) (trace : Trace) :
    (run.sent trace).1 = ((trace.report run.notices).write run.writes).1 := by
  rw [sent]
  rcases (trace.report run.notices).write run.writes with ⟨written, _ | fault⟩
  · cases run.result <;> rfl
  · rfl

/-- What goes out does not depend on whether the shell goes on. -/
theorem Run.sent_undecided (run : Run Unit) (trace : Trace) :
    (Shell.undecided run).sent trace = run.sent trace := by
  rw [sent, sent, Shell.undecided]
  rcases (trace.report run.notices).write run.writes with ⟨written, _ | fault⟩
  · cases run.result <;> rfl
  · rfl

/-- The program sends out what comes of a line, and breaks off if a fault comes of it. -/
theorem Running.answer_eq_sent (state : Running) (trace : Trace) (line : String) :
    let sent := (state.shell.dispatch state.setting line).sent trace
    (state.answer trace (some line)).1 = sent.1 ∧
      ∀ fault, sent.2 = some fault →
        ∃ clipboard, (state.answer trace (some line)).2 = .ended (.failed fault) clipboard := by
  obtain ⟨result, prompt, hrun, hfault⟩ := Shell.exists_runLine_eq state.setting state.shell line
  rw [answer, Option.getD_some, hrun, Run.sent]
  generalize state.shell.dispatch state.setting line = run at *
  simp only
  rcases (trace.report run.notices).write run.writes with ⟨written, _ | stuck⟩
  · cases hresult : run.result with
    | error fault =>
        rw [hfault fault hresult]
        exact ⟨rfl, by rintro _ ⟨⟩; exact ⟨_, rfl⟩⟩
    | ok value =>
        refine ⟨?_, by rintro _ ⟨⟩⟩
        rcases result with fault | _ | _ | _
        all_goals rfl
  · exact ⟨rfl, by rintro _ ⟨⟩; exact ⟨_, rfl⟩⟩

/-! ### Lines that the shell submits -/

/-- Whether the shell has no use of its own for a line: none of its words stands in front. -/
def Shell.PassesOn (line : String) : Prop :=
  String.ofList (splitCommand (Text.trim line.toList)).1 ∉ ownWords

instance (line : String) : Decidable (Shell.PassesOn line) :=
  inferInstanceAs (Decidable (_ ∉ _))

/-- Such a line is submitted as it was typed. -/
theorem Shell.PassesOn.dispatch_eq {line : String} (h : PassesOn line)
    (hline : Session.isRunnable line = true) (setting : ShellSetting) (shell : Shell) :
    shell.dispatch setting line = undecided ((shell.noted line).submit setting line) := by
  have hnil : Text.trim line.toList ≠ [] := by
    rw [ne_eq, ← Text.isBlankText_iff]
    intro hblank
    simp [Session.isRunnable, hblank] at hline
  rw [dispatch_eq_perform, request_of_ne_nil hnil, requestOf_of_notMem h, perform]

namespace Program

/-! ### Lines of a script -/

/-- A text is a line, with or without the newline at its end. -/
theorem scriptLines_eq_singleton {line content : String} (hempty : line ≠ "")
    (hbreak : '\n' ∉ line.toList) (hcontent : content = line ∨ content = line ++ "\n") :
    scriptLines content.toList = [line] := by
  rcases hcontent with rfl | rfl
  · rw [scriptLines, List.splitOn_eq_singleton hbreak]
    simp [hempty]
  · have hsplit : (line ++ "\n").toList.splitOn '\n' = [line.toList, []] := by
      rw [String.toList_append]
      exact List.splitOn_append_cons_self_of_not_mem hbreak []
    rw [scriptLines, hsplit]
    simp

/-- Echoes a line after the prompt. -/
def echoLine (prompt : Yaml.Value) (s : ScriptState) (line : String) :
    ScriptState × Option ProgramFault :=
  match (template prompt).bind fun template =>
      (Template.expand template "cwd" (Path.format s.session.fs.cwd)).mapError
        (ProgramFault.shell ∘ ShellFault.template) with
  | .error fault => (s, some fault)
  | .ok prompt => s.write (Shell.printed (prompt ++ line))

/-- A line that is to be run is submitted once it has been echoed. -/
theorem runScriptLine_eq {line : String} (hline : Session.isRunnable line = true)
    (setting : Setting) (width : Int) (prompt : Yaml.Value) (s : ScriptState) :
    runScriptLine setting width prompt s line =
      match echoLine prompt s line with
      | (echoed, none) => submitScriptLine setting width echoed line
      | failed => failed := by
  rw [runScriptLine, hline, Bool.not_true, if_neg Bool.false_ne_true, echoLine]
  cases (template prompt).bind fun template =>
      (Template.expand template "cwd" (Path.format s.session.fs.cwd)).mapError
        (ProgramFault.shell ∘ ShellFault.template) with
  | error fault => rfl
  | ok text => rfl

variable {setting : ShellSetting} {s : ScriptState} {shell : Shell} {line : String}
  {prompt : Yaml.Value}

/-! ### The same point -/

/-- A startup script **mirrors** a shell: they stand at the same point. -/
structure Mirrors (s : ScriptState) (shell : Shell) : Prop where
  session_eq : s.session = shell.session
  clipboard_eq : s.clipboard = shell.clipboard
  glyphs_eq : s.glyphs = shell.glyphs

/-- An echo goes out and changes nothing else. -/
theorem Mirrors.echo (h : Mirrors s shell) {echoed : ScriptState}
    (hecho : echoLine prompt s line = (echoed, none)) : Mirrors echoed (shell.noted line) := by
  rw [echoLine] at hecho
  split at hecho
  · cases hecho
  · obtain rfl := congrArg Prod.fst hecho
    exact ⟨h.session_eq, h.clipboard_eq, h.glyphs_eq⟩

/-- The signal takes no glyphs to draw. -/
theorem drawOutput_clearSignal (width : Int) (used : Nat) :
    drawOutput width used clearSignal = .ok (Screen.coloured .cyan clearSignal, used) := by
  have hread : Reply.read clearSignal = .ok (.plain clearSignal) :=
    Builtin.read_eq_plain (by decide)
  rw [drawOutput_of_read hread]
  rfl

/-- The number of glyphs used once an output has been drawn, or could not be. -/
def glyphsAfter (width : Int) (used : Nat) (output : String) : Nat :=
  match drawOutput width used output with
  | .ok (_, glyphs) => glyphs
  | .error _ => used

/-- A submitted line uses the glyphs that drawing its output takes. -/
theorem submit_glyphs (setting : ShellSetting) (shell : Shell) (line : String) :
    (shell.submit setting line).shell.glyphs =
      glyphsAfter setting.width shell.glyphs
        (shell.session.submitLine setting.toSetting shell.clipboard line).result := by
  rw [Shell.submit, glyphsAfter]
  generalize shell.session.submitLine setting.toSetting shell.clipboard line = step
  -- whether the line is forgotten is about the lines for recall alone
  by_cases hsignal : step.result = clearSignal
  · rw [if_pos hsignal, hsignal, drawOutput_clearSignal]
    simp only
    split <;> rfl
  · rw [if_neg hsignal]
    cases drawOutput setting.width shell.glyphs step.result with
    | ok drawing => rfl
    | error fault =>
        simp only
        split <;> rfl

/-- **A submitted line leads a script and a shell to the same point.** -/
theorem Mirrors.submitScriptLine (h : Mirrors s shell) (setting : ShellSetting) (line : String) :
    Mirrors (submitScriptLine setting.toSetting setting.width s line).1
      (shell.submit setting line).shell := by
  obtain ⟨glyphs, hshell⟩ := Shell.exists_submit_shell_eq setting shell line
  have hglyphs := submit_glyphs setting shell line
  rw [hshell, glyphsAfter] at hglyphs
  rw [hshell, Program.submitScriptLine, h.session_eq, h.clipboard_eq, h.glyphs_eq]
  generalize shell.session.submitLine setting.toSetting shell.clipboard line = step at *
  cases hdrawing : drawOutput setting.width shell.glyphs step.result with
  | error fault =>
      rw [hdrawing] at hglyphs
      exact ⟨rfl, rfl, hglyphs.symm⟩
  | ok drawing =>
      rw [hdrawing] at hglyphs
      exact ⟨rfl, rfl, hglyphs.symm⟩

/-- A line that the shell passes on leads it to where submitting the line does. -/
theorem Mirrors.of_passesOn (h : Mirrors s ((shell.noted line).submit setting line).shell)
    (hline : Session.isRunnable line = true) (hpassed : Shell.PassesOn line) :
    Mirrors s (shell.runLine setting line).shell := by
  obtain ⟨result, text, hrun, -⟩ := Shell.exists_runLine_eq setting shell line
  rw [hpassed.dispatch_eq hline] at hrun
  rw [hrun]
  exact ⟨h.session_eq, h.clipboard_eq, h.glyphs_eq⟩

/-- A line of a script leads to where it leads the shell. -/
theorem Mirrors.runScriptLine (h : Mirrors s shell) (hline : Session.isRunnable line = true)
    (hpassed : Shell.PassesOn line) {after : ScriptState}
    (hruns : runScriptLine setting.toSetting setting.width prompt s line = (after, none)) :
    Mirrors after (shell.runLine setting line).shell := by
  rw [runScriptLine_eq hline] at hruns
  split at hruns
  · next echoed hecho =>
      have hafter := (h.echo hecho).submitScriptLine setting line
      rw [hruns] at hafter
      exact hafter.of_passesOn hline hpassed
  · next hfailed => exact absurd hruns (hfailed after)

/-- **A script that runs to its end leads to where the shell is led by the lines that are run.** -/
theorem Mirrors.runScriptLines (h : Mirrors s shell) {lines : List String}
    (hpassed : ∀ line ∈ lines, Session.isRunnable line = true → Shell.PassesOn line)
    {after : ScriptState}
    (hruns : runScriptLines setting.toSetting setting.width prompt s lines = (after, none)) :
    Mirrors after ((lines.filter Session.isRunnable).foldl
      (fun shell line => (shell.runLine setting line).shell) shell) := by
  induction lines generalizing s shell with
  | nil =>
      cases hruns
      exact h
  | cons line lines ih =>
      obtain ⟨hfirst, hothers⟩ := List.forall_mem_cons.mp hpassed
      rw [Program.runScriptLines] at hruns
      split at hruns
      · next next hnext =>
          by_cases hline : Session.isRunnable line = true
          · rw [List.filter_cons_of_pos hline, List.foldl_cons]
            exact ih (h.runScriptLine hline (hfirst hline) hnext) hothers hruns
          · have hskipped : Session.isRunnable line = false := by simpa using hline
            rw [Program.runScriptLine, hskipped] at hnext
            cases hnext
            rw [List.filter_cons_of_neg hline]
            exact ih h hothers hruns
      · next hfailed => exact absurd hruns (hfailed after)

/-! ### What is shown -/

/-- **What goes out of a submitted line is the same**, unless it is the signal. -/
theorem submitScriptLine_eq_sent (h : Mirrors s shell)
    (hresult : (shell.session.submitLine setting.toSetting shell.clipboard line).result ≠
      clearSignal) :
    let step := submitScriptLine setting.toSetting setting.width s line
    (step.1.trace, step.2) = (shell.submit setting line).sent s.trace := by
  rw [submitScriptLine, Shell.submit, h.session_eq, h.clipboard_eq, h.glyphs_eq]
  generalize shell.session.submitLine setting.toSetting shell.clipboard line = step at *
  rw [if_neg hresult]
  cases drawOutput setting.width shell.glyphs step.result with
  | error fault => rfl
  | ok drawing =>
      simp only [ScriptState.write, Run.sent]
      rcases (s.trace.report step.notices).write (Shell.printed drawing.1.toText) with
        ⟨written, _ | fault⟩
      · rfl
      · rfl

/-- The signal as a text on its way out. -/
def signalPiece (colours : Bool) : String :=
  if colours then Code.cyan.sequence ++ clearSignal ++ resetSequence ++ resetSequence
  else clearSignal

/-- The newline behind it. -/
def newlinePiece (colours : Bool) : String :=
  if colours then "\n" ++ resetSequence else "\n"

/-- The signal always goes out, as a text like any other. -/
theorem write_signal (trace : Trace) :
    trace.write (Shell.printed (Screen.coloured .cyan clearSignal).toText) =
      ({ trace with
        writes := trace.writes ++ [signalPiece trace.colours, newlinePiece trace.colours] },
        none) := by
  have hsignal (colours : Bool) : Output.piece? colours (Screen.coloured .cyan clearSignal).toText =
      some (signalPiece colours) := by
    cases colours <;> decide +kernel
  have hnewline (colours : Bool) : Output.piece? colours "\n" = some (newlinePiece colours) := by
    cases colours <;> decide +kernel
  simp only [Shell.printed, Trace.write, Trace.piece?, hsignal, hnewline, List.append_assoc,
    List.cons_append, List.nil_append]

/-- What has been written stays, and more follows it. -/
theorem exists_write_writes_eq (trace : Trace) (texts : List String) :
    ∃ more, (trace.write texts).1.writes = trace.writes ++ more := by
  induction texts generalizing trace with
  | nil => exact ⟨[], (List.append_nil _).symm⟩
  | cons text texts ih =>
      rw [Trace.write]
      split
      · next piece hpiece =>
          obtain ⟨more, hmore⟩ := ih { trace with writes := trace.writes ++ [piece] }
          exact ⟨piece :: more, by rw [hmore, List.append_assoc, List.singleton_append]⟩
      · exact ⟨[], (List.append_nil _).symm⟩

/-- What clears the screen is not what shows the signal. -/
theorem write_clearSequence_ne (trace : Trace) (more : List String) :
    (trace.write [Shell.clearSequence, ""]).1.writes ≠
      trace.writes ++ signalPiece trace.colours :: more := by
  obtain ⟨piece, hpiece, hne⟩ : ∃ piece,
      trace.piece? Shell.clearSequence = some piece ∧ piece ≠ signalPiece trace.colours := by
    rw [Trace.piece?]
    cases trace.colours
    · exact ⟨"\x1bc", by decide +kernel, by decide +kernel⟩
    · exact ⟨"\x1bc" ++ resetSequence, by decide +kernel, by decide +kernel⟩
  obtain ⟨others, hothers⟩ :=
    exists_write_writes_eq { trace with writes := trace.writes ++ [piece] } [""]
  rw [Trace.write, hpiece]
  simp only [hothers, List.append_assoc, List.singleton_append]
  intro heq
  exact hne (List.cons.inj (List.append_cancel_left heq)).1

/-- A line is answered with the signal exactly if its command is `clear`. -/
theorem result_eq_clearSignal_iff (hregistry : setting.registry = Builtin.registry)
    (s : Session) (clipboard : Clipboard) (line : String) :
    (s.submitLine setting.toSetting clipboard line).result = clearSignal ↔
      (CommandLine.parse line).command = "clear" := by
  rw [Session.submitLine_result, hregistry, Builtin.output_run_eq_clearSignal_iff]

section Signal

variable (h : Mirrors s shell)
  (hresult : (shell.session.submitLine setting.toSetting shell.clipboard line).result = clearSignal)

include h hresult in
/-- A script shows the signal. -/
theorem submitScriptLine_of_signal :
    let step := submitScriptLine setting.toSetting setting.width s line
    step.2 = none ∧ step.1.trace.writes =
      s.trace.writes ++ [signalPiece s.trace.colours, newlinePiece s.trace.colours] := by
  simp only [submitScriptLine, h.session_eq, h.clipboard_eq, hresult, drawOutput_clearSignal,
    ScriptState.write, write_signal]
  exact ⟨trivial, rfl⟩

include hresult in
/-- The shell clears the screen. -/
theorem submit_writes_of_signal :
    (shell.submit setting line).writes = [Shell.clearSequence, ""] := by
  rw [Shell.submit, if_pos hresult]

include h hresult in
/-- **To show the signal is not to clear the screen.** -/
theorem submitScriptLine_trace_ne :
    (submitScriptLine setting.toSetting setting.width s line).1.trace ≠
      ((shell.submit setting line).sent s.trace).1 := by
  obtain ⟨-, hshown⟩ := submitScriptLine_of_signal h hresult
  rw [Run.sent_fst, submit_writes_of_signal hresult]
  intro heq
  rw [heq] at hshown
  exact write_clearSequence_ne (s.trace.report (shell.submit setting line).notices)
    [newlinePiece s.trace.colours] hshown

end Signal

/-! ### The startup script -/

/-- A script of one line submits it once it has been echoed. -/
theorem runStartup_of_echoLine {setting : Setting} {width : Int} {folder : Folder}
    {path content : String} {echoed : ScriptState}
    (hline : Session.isRunnable line = true) (hbreak : '\n' ∉ line.toList)
    (hreturn : '\r' ∉ line.toList) (hcontent : content = line ∨ content = line ++ "\n")
    (hstored : folder.find? path = some (.text content))
    (hecho : echoLine prompt s line = (echoed, none)) :
    let step := submitScriptLine setting width echoed line
    runStartup setting width prompt folder path s = (step.1, step.2.map .failed) := by
  have hempty : line ≠ "" := by
    rintro rfl
    exact absurd hline (by decide)
  have hplain : '\r' ∉ content.toList := by
    rcases hcontent with rfl | rfl
    · exact hreturn
    · simpa using hreturn
  have hlines : scriptLines (Text.Source.ofText content).text = [line] := by
    rw [Text.Source.ofText, Text.normalizeNewlines_eq_self hplain]
    exact scriptLines_eq_singleton hempty hbreak hcontent
  have hsubmitted : runScriptLine setting width prompt s line =
      submitScriptLine setting width echoed line := by
    rw [runScriptLine_eq hline, hecho]
  have hscript : runScript setting width prompt (Text.Source.ofText content) s =
      submitScriptLine setting width echoed line := by
    rw [runScript, Text.Source.ofText, if_neg Bool.false_ne_true, ← Text.Source.ofText, hlines,
      runScriptLines, hsubmitted]
    rcases submitScriptLine setting width echoed line with ⟨after, _ | fault⟩
    · rfl
    · rfl
  intro step
  simp only [runStartup, hstored, Folder.sourceOf, hscript]
  rfl

/-- **A startup script of one line comes to what the shell comes to, but for `clear`.** Take a line
that is to be run, that the shell passes on, and that can be echoed. A script that holds the line
alone leads to where the line leads a shell that stands at the same point. What goes out after the
echo is what the program sends out when the line is typed, and a fault is a fault there as well,
unless the command of the line is `clear`: then the shell clears the screen, and the script shows
the signal. -/
theorem runStartup_mirrors (hregistry : setting.registry = Builtin.registry) (h : Mirrors s shell)
    (hline : Session.isRunnable line = true) (hbreak : '\n' ∉ line.toList)
    (hreturn : '\r' ∉ line.toList) (hpassed : Shell.PassesOn line) {folder : Folder}
    {path content : String} (hcontent : content = line ∨ content = line ++ "\n")
    (hstored : folder.find? path = some (.text content)) {echoed : ScriptState}
    (hecho : echoLine prompt s line = (echoed, none)) :
    let script := runStartup setting.toSetting setting.width prompt folder path s
    let typed := Running.answer ⟨setting, shell⟩ echoed.trace (some line)
    Mirrors script.1 (shell.runLine setting line).shell ∧
      (script.1.trace = typed.1 ↔ (CommandLine.parse line).command ≠ "clear") ∧
      (∀ ending, script.2 = some ending → ∃ clipboard, typed.2 = .ended ending clipboard) ∧
      ((CommandLine.parse line).command = "clear" →
        (shell.runLine setting line).writes = [Shell.clearSequence, ""] ∧
        script.1.trace.writes = echoed.trace.writes ++
          [signalPiece echoed.trace.colours, newlinePiece echoed.trace.colours]) := by
  intro script typed
  have hscript : script = _ :=
    runStartup_of_echoLine hline hbreak hreturn hcontent hstored hecho
  have hechoed := h.echo hecho
  have hmirrors := (hechoed.submitScriptLine setting line).of_passesOn hline hpassed
  have hdispatch := hpassed.dispatch_eq hline setting shell
  have hsignal := result_eq_clearSignal_iff hregistry (shell.noted line).session
    (shell.noted line).clipboard line
  obtain ⟨result, text, hrun, -⟩ := Shell.exists_runLine_eq setting shell line
  obtain ⟨htrace, hended⟩ := Running.answer_eq_sent ⟨setting, shell⟩ echoed.trace line
  simp only [hdispatch, Run.sent_undecided] at htrace hended hrun
  rw [hscript]
  refine ⟨hmirrors, ?_⟩
  -- the two part over the signal, and over nothing else
  by_cases hcommand : (CommandLine.parse line).command = "clear"
  · have hresult := hsignal.mpr hcommand
    have hne := submitScriptLine_trace_ne hechoed hresult
    obtain ⟨hnone, hshown⟩ := submitScriptLine_of_signal hechoed hresult
    rw [← htrace] at hne
    refine ⟨iff_of_false hne (not_not.mpr hcommand), fun ending hending => ?_,
      fun _ => ⟨?_, hshown⟩⟩
    · rw [hnone] at hending
      cases hending
    · rw [hrun]
      exact submit_writes_of_signal hresult
  · have hsent := submitScriptLine_eq_sent hechoed (mt hsignal.mp hcommand)
    rw [← hsent] at htrace hended
    refine ⟨iff_of_true htrace.symm hcommand, fun ending hending => ?_, fun h => absurd h hcommand⟩
    obtain ⟨fault, hfault, rfl⟩ := Option.map_eq_some_iff.mp hending
    exact hended fault hfault

/-- A startup script that stands where a shell stands, before anything has gone out. -/
def beside (shell : Shell) : ScriptState :=
  ⟨shell.session, shell.clipboard, shell.glyphs, {}⟩

theorem mirrors_beside (shell : Shell) : Mirrors (beside shell) shell :=
  ⟨rfl, rfl, rfl⟩

/-- A folder with a script of one line. -/
def folderOf (line : String) : Folder where
  files := [("script", .text (line ++ "\n"))]

/-- The usual prompt is echoed with the directory in it. -/
theorem echoLine_opened {line : String}
    (hplain : Output.plain? ("guest@resume:/$ " ++ line) = some ("guest@resume:/$ " ++ line)) :
    echoLine ({} : Settings).prompt (beside Shell.opened) line =
      ({ beside Shell.opened with trace := { writes := ["guest@resume:/$ " ++ line, "\n"] } },
        none) := by
  have hcwd : (beside Shell.opened).session.fs.cwd = [] := Document.file_cwd (.ofResume .sample)
  have hnewline : Output.plain? "\n" = some "\n" := by decide +kernel
  have htemplate : template ({} : Settings).prompt = .ok "guest@resume:\x7bcwd\x7d$ " := rfl
  have hexpand := Shell.expand_usual (Path.format [])
  have htext : "guest@resume:" ++ Path.format [] ++ "$ " = "guest@resume:/$ " := by decide
  rw [htext] at hexpand
  have hwrite : (beside Shell.opened).trace.write (Shell.printed ("guest@resume:/$ " ++ line)) =
      ({ writes := ["guest@resume:/$ " ++ line, "\n"] }, none) := by
    simp [Shell.printed, Trace.write, Trace.piece?, Output.piece?, beside, hplain, hnewline]
  rw [echoLine, htemplate, hcwd]
  simp only [Except.bind, hexpand, Except.mapError, ScriptState.write, hwrite]

/-- A script with `pwd` comes to what typing it comes to. -/
theorem runStartup_mirrors_pwd :
    let setting := Shell.usual (.ofResume .sample) 80
    let script := runStartup setting.toSetting setting.width ({} : Settings).prompt
      (folderOf "pwd") "script" (beside Shell.opened)
    let typed := Running.answer ⟨setting, Shell.opened⟩
      { writes := ["guest@resume:/$ pwd", "\n"] } (some "pwd")
    Mirrors (beside Shell.opened) Shell.opened ∧ Session.isRunnable "pwd" = true ∧
      Shell.PassesOn "pwd" ∧ (folderOf "pwd").find? "script" = some (.text "pwd\n") ∧
      (CommandLine.parse "pwd").command ≠ "clear" ∧
      Mirrors script.1 (Shell.opened.runLine setting "pwd").shell ∧
      script.1.trace = typed.1 := by
  intro setting script typed
  have hregistry : setting.registry = Builtin.registry := rfl
  have hline : Session.isRunnable "pwd" = true := by decide
  have hpassed : Shell.PassesOn "pwd" := by decide
  have hstored : (folderOf "pwd").find? "script" = some (.text "pwd\n") := by decide +kernel
  have hcommand : (CommandLine.parse "pwd").command ≠ "clear" := by decide +kernel
  obtain ⟨hmirrors, htrace, -⟩ := runStartup_mirrors hregistry (mirrors_beside Shell.opened) hline
    (by decide) (by decide) hpassed (.inr rfl) hstored (echoLine_opened (by decide +kernel))
  exact ⟨mirrors_beside Shell.opened, hline, hpassed, hstored, hcommand, hmirrors,
    htrace.mpr hcommand⟩

/-- **A startup script shows the signal**, where the shell clears the screen. -/
theorem runStartup_clear :
    let setting := Shell.usual (.ofResume .sample) 80
    let script := runStartup setting.toSetting setting.width ({} : Settings).prompt
      (folderOf "clear") "script" (beside Shell.opened)
    Session.isRunnable "clear" = true ∧ Shell.PassesOn "clear" ∧ script.2 = none ∧
      script.1.trace.writes = ["guest@resume:/$ clear", "\n", "CLEAR_TERMINAL", "\n"] ∧
      (Shell.opened.runLine setting "clear").writes = ["\x1bc", ""] := by
  intro setting script
  have hline : Session.isRunnable "clear" = true := by decide
  have hpassed : Shell.PassesOn "clear" := by decide
  have hstored : (folderOf "clear").find? "script" = some (.text "clear\n") := by decide +kernel
  have hcommand : (CommandLine.parse "clear").command = "clear" := by decide +kernel
  have hresult : ((Shell.opened.noted "clear").session.submitLine setting.toSetting
      (Shell.opened.noted "clear").clipboard "clear").result = clearSignal :=
    (result_eq_clearSignal_iff rfl _ _ _).mpr hcommand
  have hecho : echoLine ({} : Settings).prompt (beside Shell.opened) "clear" = _ :=
    echoLine_opened (by decide +kernel)
  obtain ⟨hnone, hshown⟩ :=
    submitScriptLine_of_signal ((mirrors_beside Shell.opened).echo hecho) hresult
  have hscript : script = _ :=
    runStartup_of_echoLine hline (by decide) (by decide) (.inr rfl) hstored hecho
  obtain ⟨result, text, hrun, -⟩ := Shell.exists_runLine_eq setting Shell.opened "clear"
  rw [hpassed.dispatch_eq hline] at hrun
  refine ⟨hline, hpassed, ?_, ?_, ?_⟩
  · rw [hscript]
    exact congrArg (Option.map Ending.failed) hnone
  · rw [hscript]
    exact hshown
  · rw [hrun]
    exact submit_writes_of_signal hresult

end Program

end VitaeShell
