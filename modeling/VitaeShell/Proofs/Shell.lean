import VitaeShell.Proofs.Resume.Filing
import VitaeShell.Proofs.Screen.Drawing
import VitaeShell.Proofs.Session.Residence
import VitaeShell.Resume.Sample
import VitaeShell.Shell

/-!
# No line of the shell fails

A line that the shell runs can fail in two places: an answer cannot be drawn, or the prompt cannot
be expanded. Neither happens to a shell with the usual prompt over a checked document. The session
stays in a reached state, so that its tree is that of the document, whose files hold text, and then
every answer can be drawn. What else a shell holds, such as the lines for recall, does not matter.

A run holds the texts that are to be written and does not write them. To write them is left to the
program, which can break off there: `Running.answer_failed_iff` says over which texts.

## Main results

* `Shell.expand_usual`: the usual prompt can always be expanded.
* `Shell.exists_drawOutput_submitLine`: the output of a submitted line can be drawn.
* `Shell.exists_runLine_eq_ok`: no line fails, up to what it writes.
* `Shell.forall_mem_runLines`: nor does any line of a run.
-/

namespace VitaeShell.Shell

/-! ### The prompt -/

/-- The usual prompt has the current directory between a name and a dollar sign. -/
theorem expand_usual (value : String) :
    Template.expand "guest@resume:\x7bcwd\x7d$ " "cwd" value =
      .ok ("guest@resume:" ++ value ++ "$ ") := by
  have hchars : Template.expandFrom "cwd".toList value.toList Template.maxDepth
      ("guest@resume:\x7bcwd\x7d$ ".toList.length + 1) "guest@resume:\x7bcwd\x7d$ ".toList =
        .ok ("guest@resume:".toList ++ (value.toList ++ "$ ".toList)) := rfl
  have htext : String.ofList ("guest@resume:".toList ++ (value.toList ++ "$ ".toList)) =
      "guest@resume:" ++ value ++ "$ " := by
    rw [← String.toList_inj]
    simp
  rw [Template.expand, hchars, ← htext]
  rfl

/-- The setting of a shell with the usual prompt. -/
def usual (document : Document) (width : Int) : ShellSetting :=
  { document := document, width := width }

/-- The usual prompt can be brought up to date. -/
theorem exists_updatePrompt_eq_ok (document : Document) (width : Int) (shell : Shell) :
    ∃ after, shell.updatePrompt (usual document width) = .ok after ∧
      after.session = shell.session := by
  have hexpand := expand_usual (Path.format shell.session.fs.cwd)
  have htemplate : (usual document width).template = "guest@resume:\x7bcwd\x7d$ " := rfl
  rw [updatePrompt, promptFor, htemplate, hexpand]
  exact ⟨_, rfl, rfl⟩

/-! ### One line -/

section Line

variable {document : Document} (hdocument : document.Checked) (width : Int)

include hdocument in
/-- **The output of a submitted line can be drawn.** -/
theorem exists_drawOutput_submitLine {s : Session}
    (hs : Session.Reached ⟨document, Builtin.registry⟩ s) (clipboard : Clipboard) (line : String)
    (used : Nat) :
    ∃ drawing, drawOutput width used
      (s.submitLine ⟨document, Builtin.registry⟩ clipboard line).result = .ok drawing := by
  have htext : Entries.TextOnly s.fs.root := by
    rw [hs.resident.1]
    exact hdocument.textOnly
  rw [Session.submitLine_result]
  -- how the line is read does not matter here
  generalize CommandLine.parse line = command
  exact Builtin.exists_drawOutput_run htext command clipboard width used

/-- A run **succeeds** if it ends with a result, in a reached state of the session. -/
structure Succeeds {α : Type} (document : Document) (run : Run α) : Prop where
  exists_result : ∃ value, run.result = .ok value
  reached : Session.Reached ⟨document, Builtin.registry⟩ run.shell.session

/-- A run succeeds whether or not it decides to go on. -/
theorem Succeeds.undecided {run : Run Unit} (h : Succeeds document run) :
    Succeeds document (undecided run) := by
  obtain ⟨value, hvalue⟩ := h.exists_result
  exact ⟨⟨none, by rw [Shell.undecided, hvalue]; rfl⟩, h.reached⟩

variable {shell : Shell} (hshell : Session.Reached ⟨document, Builtin.registry⟩ shell.session)

include hdocument hshell in
/-- A submitted line is drawn, or clears the screen. -/
theorem succeeds_submit (line : String) :
    Succeeds document (shell.submit (usual document width) line) := by
  have hsetting : (usual document width).toSetting = ⟨document, Builtin.registry⟩ := rfl
  have hwidth : (usual document width).width = width := rfl
  have hreached := hshell.submitLine shell.clipboard line
  obtain ⟨⟨screen, glyphs⟩, hdrawing⟩ :=
    exists_drawOutput_submitLine hdocument width hshell shell.clipboard line shell.glyphs
  rw [submit, hsetting, hwidth]
  generalize shell.session.submitLine ⟨document, Builtin.registry⟩ shell.clipboard line = step at *
  simp only [hdrawing]
  split
  · exact ⟨⟨(), rfl⟩, by split <;> exact hreached⟩
  · exact ⟨⟨(), rfl⟩, by split <;> exact hreached⟩

include hdocument hshell in
/-- So does a line that is none of the shell's own commands. -/
theorem succeeds_submitTyped (line : String) :
    Succeeds document (shell.submitTyped (usual document width) line) := by
  rw [submitTyped]
  split
  · exact ⟨⟨(), rfl⟩, hshell⟩
  · exact succeeds_submit hdocument width hshell _

include hshell in
/-- Leaving succeeds. -/
theorem succeeds_leave : Succeeds document shell.leave :=
  ⟨⟨some true, rfl⟩, hshell⟩

/-- So does starting over. -/
theorem succeeds_refresh (shell : Shell) :
    Succeeds document (shell.refresh (usual document width)) :=
  ⟨⟨(), rfl⟩, .start⟩

include hdocument hshell in
/-- Whichever command of its own a shell finds in a line, or none, the run succeeds. -/
theorem succeeds_dispatch (typed : String) :
    Succeeds document (shell.dispatch (usual document width) typed) := by
  -- the line is noted first, which leaves the session as it is
  have hnoted : Session.Reached ⟨document, Builtin.registry⟩
      { shell with typed := typed }.session := hshell
  rw [dispatch]
  generalize { shell with typed := typed } = noted at *
  simp only
  split
  · exact ⟨⟨some false, rfl⟩, hnoted⟩
  · generalize splitCommand (Text.trim typed.toList) = parts
    obtain ⟨word, argument, line⟩ := parts
    simp only
    split
    · exact (succeeds_submit hdocument width hnoted _).undecided
    · exact (succeeds_refresh width noted).undecided
    · exact succeeds_leave hnoted
    · exact succeeds_leave hnoted
    · exact ⟨⟨some true, rfl⟩, hnoted⟩
    · exact (succeeds_submitTyped hdocument width hnoted _).undecided

include hdocument hshell in
/-- To bring the prompt up to date succeeds as well, and so does the whole line. -/
theorem succeeds_runLine (typed : String) :
    Succeeds document (shell.runLine (usual document width) typed) := by
  have hrun := succeeds_dispatch hdocument width hshell typed
  obtain ⟨stop, hstop⟩ := hrun.exists_result
  rw [runLine]
  generalize shell.dispatch (usual document width) typed = run at *
  obtain ⟨after, hafter, hsession⟩ := exists_updatePrompt_eq_ok document width run.shell
  simp only [hstop, hafter]
  exact ⟨⟨stop, rfl⟩, hsession ▸ hrun.reached⟩

end Line

/-- **No line fails**, up to what it writes. A shell with the usual prompt over a checked document,
in a reached state of its session and whatever else it holds, runs every line to its end and brings
its prompt up to date, and the session is again in a reached state. Moreover the output of any line
that is submitted can be drawn. That the texts of the run go out is no part of this: without colours
the program breaks off over one that asks for a title (`Running.answer_failed_iff`). -/
theorem exists_runLine_eq_ok {document : Document} (hdocument : document.Checked) {shell : Shell}
    (hshell : Session.Reached ⟨document, Builtin.registry⟩ shell.session) (width : Int)
    (line : String) :
    let setting := usual document width
    (∃ stop, (shell.runLine setting line).result = .ok stop) ∧
    Session.Reached setting.toSetting (shell.runLine setting line).shell.session ∧
    ∀ (clipboard : Clipboard) (submitted : String) (used : Nat), ∃ drawing,
      drawOutput width used
        (shell.session.submitLine setting.toSetting clipboard submitted).result = .ok drawing := by
  obtain ⟨hresult, hreached⟩ := succeeds_runLine hdocument width hshell line
  exact ⟨hresult, hreached, exists_drawOutput_submitLine hdocument width hshell⟩

/-- A shell that has just been opened on the sample résumé, with an old line for recall. -/
def opened : Shell where
  session := (Session.start ⟨.ofResume .sample, Builtin.registry⟩).1
  clipboard := .unwilling ""
  recallable := some ["exit"]
  prompt := ""

/-- A search is run on a screen one column wide, with no clipboard. -/
theorem exists_runLine_eq_ok_opened :
    (Document.ofResume .sample).Checked ∧
      Session.Reached ⟨.ofResume .sample, Builtin.registry⟩ opened.session ∧
      ∃ stop, (opened.runLine (usual (.ofResume .sample) 1) "grep e").result = .ok stop := by
  have hchecked : (Document.ofResume .sample).Checked := ⟨.sample, rfl⟩
  have hreached : Session.Reached ⟨.ofResume .sample, Builtin.registry⟩ opened.session := .start
  obtain ⟨hresult, -, -⟩ := exists_runLine_eq_ok hchecked hreached 1 "grep e"
  exact ⟨hchecked, hreached, hresult⟩

/-! ### Many lines -/

/-- The runs of one line after the other. -/
def runLines (setting : ShellSetting) (shell : Shell) : List String → List (Run (Option Bool))
  | [] => []
  | line :: lines =>
    let run := shell.runLine setting line
    run :: runLines setting run.shell lines

/-- **No line of a run fails.** -/
theorem forall_mem_runLines {document : Document} (hdocument : document.Checked) (width : Int)
    {shell : Shell} (hshell : Session.Reached ⟨document, Builtin.registry⟩ shell.session)
    (lines : List String) :
    ∀ run ∈ runLines (usual document width) shell lines, ∃ stop, run.result = .ok stop := by
  induction lines generalizing shell with
  | nil =>
      intro run hrun
      cases hrun
  | cons line lines ih =>
      intro run hrun
      have hline := succeeds_runLine hdocument width hshell line
      rw [runLines] at hrun
      rcases List.mem_cons.mp hrun with rfl | hrun
      · exact hline.exists_result
      · exact ih hline.reached run hrun

end VitaeShell.Shell
