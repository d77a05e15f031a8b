import VitaeShell.Program
import VitaeShell.Proofs.Shell

/-!
# What keeps the program from going on

No line of a shell with the usual prompt over a checked document fails, but the program has to write
what comes of it. A text that goes out without colours must not ask for a title
(`Output.AsksForTitle`): over such a text the program breaks off. That is the only fault that is
left. It depends on the texts that a run writes, and it cannot come up where colours are kept.

## Main results

* `Trace.write_eq_some_iff`: writing stops exactly over a text that asks for a title, where no
  colours are kept.
* `Running.answer_failed_iff`: so does the program over the texts of a line.
* `Running.Usual.feed`: a line leads to a usual state again, to the end, or to that fault.
* `Program.feedAll_ending`: and so do any number of lines.
* `Program.exists_openShell_eq`: with the usual prompt, that is the state in which the shell is
  opened.
-/

namespace VitaeShell

/-! ### Texts -/

/-- A text **asks for a title** if one of the commands in it does. -/
def Output.AsksForTitle (text : String) : Prop :=
  ∃ command ∈ commands 0 0 text.toList, command.asksForTitle = true

instance (text : String) : Decidable (Output.AsksForTitle text) :=
  inferInstanceAs (Decidable (∃ command ∈ Output.commands 0 0 text.toList, _))

/-- Every text goes out but one that asks for a title, where no colours are kept. -/
theorem Output.piece?_eq_none_iff (colours : Bool) (text : String) :
    piece? colours text = none ↔ colours = false ∧ AsksForTitle text := by
  rw [piece?]
  cases colours with
  | true => simp
  | false =>
      rw [if_neg Bool.false_ne_true, plain?, AsksForTitle, ← List.any_eq_true]
      split
      · next hasks => simp [hasks]
      · next hasks => simp [hasks]

example : Output.AsksForTitle "a \x1b]0;title\x07 line" := by decide

/-! ### Writing -/

namespace Trace

/-- Nothing that is written changes whether colours are kept. -/
theorem write_colours (trace : Trace) (texts : List String) :
    (trace.write texts).1.colours = trace.colours := by
  induction texts generalizing trace with
  | nil => rfl
  | cons text texts ih =>
      rw [write]
      split
      · exact ih _
      · rfl

/-- **Writing stops exactly over a text that asks for a title**, where no colours are kept. -/
theorem write_eq_some_iff (trace : Trace) (texts : List String) (fault : ProgramFault) :
    (trace.write texts).2 = some fault ↔
      fault = .titleAsked ∧ trace.colours = false ∧
        ∃ text ∈ texts, Output.AsksForTitle text := by
  induction texts generalizing trace with
  | nil => simp [write]
  | cons text texts ih =>
      have hpiece := Output.piece?_eq_none_iff trace.colours text
      rw [write, piece?]
      cases hwritten : Output.piece? trace.colours text with
      | some piece =>
          -- the first text is no reason to stop, so it is one of the others
          have hgoes : trace.colours = false → ¬ Output.AsksForTitle text := by
            intro hcolours hasks
            rw [hpiece.mpr ⟨hcolours, hasks⟩] at hwritten
            cases hwritten
          simp only [ih, List.exists_mem_cons_iff]
          constructor
          · rintro ⟨hfault, hcolours, hothers⟩
            exact ⟨hfault, hcolours, .inr hothers⟩
          · rintro ⟨hfault, hcolours, hasks | hothers⟩
            · exact absurd hasks (hgoes hcolours)
            · exact ⟨hfault, hcolours, hothers⟩
      | none =>
          obtain ⟨hcolours, hasks⟩ := hpiece.mp hwritten
          simp only [Option.some.injEq, hcolours, List.exists_mem_cons_iff, hasks, true_or,
            and_true]
          exact eq_comm

/-- Nor does anything that is reported. -/
theorem report_colours (trace : Trace) (notices : List Notice) :
    (trace.report notices).colours = trace.colours :=
  rfl

end Trace

/-! ### One line -/

/-- The program is in a **usual** state over a document: its prompt is the usual one, and its
session has been reached there. -/
structure Running.Usual (document : Document) (state : Running) : Prop where
  exists_setting : ∃ width, state.setting = Shell.usual document width
  reached : Session.Reached ⟨document, Builtin.registry⟩ state.shell.session

/-- A stage is **sound** if the program waits in a usual state, has been left, or has broken off
over a text that asks for a title, for want of colours. -/
inductive Stage.Sound (document : Document) (colours : Bool) : Stage → Prop where
  | waits {state : Running} (h : state.Usual document) : Sound document colours (.running state)
  | left (clipboard : Clipboard) : Sound document colours (.ended .left clipboard)
  | brokenOff (hcolours : colours = false) (clipboard : Clipboard) :
      Sound document colours (.ended (.failed .titleAsked) clipboard)

namespace Running

variable {document : Document} {state : Running}

/-- The run of a line in a usual state succeeds. -/
theorem Usual.succeeds (h : Usual document state) (hdocument : document.Checked) (line : String) :
    Shell.Succeeds document (state.shell.runLine state.setting line) := by
  obtain ⟨width, hsetting⟩ := h.exists_setting
  rw [hsetting]
  exact Shell.succeeds_runLine hdocument width h.reached line

/-- **The program breaks off over a line exactly if a text that is written for it asks for a
title**, where no colours are kept. -/
theorem answer_failed_iff (h : Usual document state) (hdocument : document.Checked)
    (trace : Trace) (line : Option String) (fault : ProgramFault) :
    (∃ clipboard, (state.answer trace line).2 = .ended (.failed fault) clipboard) ↔
      fault = .titleAsked ∧ trace.colours = false ∧
        ∃ text ∈ (state.shell.runLine state.setting (line.getD "EOF")).writes,
          Output.AsksForTitle text := by
  obtain ⟨stop, hstop⟩ := (h.succeeds hdocument (line.getD "EOF")).exists_result
  rw [answer]
  generalize state.shell.runLine state.setting (line.getD "EOF") = run at *
  rw [← trace.report_colours run.notices, ← Trace.write_eq_some_iff]
  rcases (trace.report run.notices).write run.writes with ⟨written, _ | stuck⟩
  · simp only [hstop]
    rcases stop with _ | _ | _
    all_goals simp
  · simp

/-- What a line writes is all that can keep the program from going on. -/
theorem Usual.answer (h : Usual document state) (hdocument : document.Checked) (trace : Trace)
    (line : Option String) :
    (state.answer trace line).2.Sound document trace.colours := by
  have hrun := h.succeeds hdocument (line.getD "EOF")
  obtain ⟨stop, hstop⟩ := hrun.exists_result
  rw [Running.answer]
  generalize state.shell.runLine state.setting (line.getD "EOF") = run at *
  have hnext : Usual document { state with shell := run.shell } :=
    ⟨h.exists_setting, hrun.reached⟩
  have hfault := Trace.write_eq_some_iff (trace.report run.notices) run.writes
  generalize (trace.report run.notices).write run.writes = written at *
  obtain ⟨after, _ | fault⟩ := written
  · simp only [hstop]
    rcases stop with _ | _ | _
    · exact .waits hnext
    · exact .waits hnext
    · exact .left _
  · obtain ⟨rfl, hcolours, -⟩ := (hfault fault).mp rfl
    exact .brokenOff hcolours _

/-- **One line of the user.** Asked in a usual state, the program waits in such a state again, is
left, or breaks off over a text that asks for a title. -/
theorem Usual.feed (h : Usual document state) (hdocument : document.Checked) (trace : Trace)
    (line : Option String) :
    (state.feed trace line).2.Sound document trace.colours := by
  have hfault := trace.write_eq_some_iff [state.shell.prompt]
  have hcolours := trace.write_colours [state.shell.prompt]
  rw [Running.feed, ask]
  generalize trace.write [state.shell.prompt] = written at *
  obtain ⟨after, _ | fault⟩ := written
  · rw [← hcolours]
    exact h.answer hdocument after line
  · obtain ⟨rfl, hplain, -⟩ := (hfault fault).mp rfl
    exact .brokenOff hplain _

/-- A line does not change whether colours are kept. -/
theorem feed_colours (state : Running) (trace : Trace) (line : Option String) :
    (state.feed trace line).1.colours = trace.colours := by
  have hask := trace.write_colours [state.shell.prompt]
  rw [Running.feed, ask]
  generalize trace.write [state.shell.prompt] = written at *
  obtain ⟨after, _ | fault⟩ := written
  · rw [← hask]
    simp only [Running.answer]
    generalize state.shell.runLine state.setting (line.getD "EOF") = run
    have hanswer := (after.report run.notices).write_colours run.writes
    generalize (after.report run.notices).write run.writes = written at *
    obtain ⟨after', _ | fault⟩ := written
    · rcases run.result with fault | _ | _ | _
      all_goals exact hanswer
    · exact hanswer
  · exact hask

end Running

/-! ### Many lines -/

namespace Program

variable {document : Document}

/-- **However many lines there are, the program is left in the end**, unless it breaks off over a
text that asks for a title, for want of colours. -/
theorem feedAll_ending (hdocument : document.Checked) {trace : Trace} {stage : Stage}
    (h : stage.Sound document trace.colours) (lines : List String) :
    (feedAll trace stage lines).2.1 = .left ∨
      (feedAll trace stage lines).2.1 = .failed .titleAsked ∧ trace.colours = false := by
  induction lines generalizing trace stage with
  | nil =>
      cases h with
      | waits h =>
          rw [feedAll]
          have hfed := h.feed hdocument trace none
          generalize Running.feed _ trace none = fed at *
          obtain ⟨after, stage⟩ := fed
          cases hfed with
          | waits => exact .inl rfl
          | left => exact .inl rfl
          | brokenOff hcolours => exact .inr ⟨rfl, hcolours⟩
      | left clipboard => exact .inl rfl
      | brokenOff hcolours clipboard => exact .inr ⟨rfl, hcolours⟩
  | cons line lines ih =>
      cases h with
      | @waits state h =>
          have hfed := h.feed hdocument trace (some line)
          rw [← state.feed_colours trace (some line)] at hfed ⊢
          exact ih hfed
      | left clipboard => exact .inl rfl
      | brokenOff hcolours clipboard => exact .inr ⟨rfl, hcolours⟩

end Program

/-! ### Opening the shell -/

/-- A shell with the usual prompt can be opened on any session. -/
theorem Shell.exists_ofSession_eq_ok (document : Document) (width : Int) (session : Session)
    (clipboard : Clipboard) (recallable : Option (List String)) :
    ∃ shell, ofSession (usual document width) session clipboard recallable = .ok shell ∧
      shell.session = session := by
  have hexpand := expand_usual (Path.format session.fs.cwd)
  have htemplate : (usual document width).template = "guest@resume:\x7bcwd\x7d$ " := rfl
  rw [ofSession, promptFor, htemplate, hexpand]
  exact ⟨_, rfl, rfl⟩

namespace Program

/-- With the usual prompt the shell can always be opened, and the program then waits in a usual
state. -/
theorem exists_openShell_eq (document : Document) (width : Int) {s : ScriptState}
    (hs : Session.Reached ⟨document, Builtin.registry⟩ s.session) :
    ∃ trace state, openShell ⟨document, Builtin.registry⟩ width ({} : Settings).prompt s =
      (trace, .running state) ∧ trace.colours = s.trace.colours ∧ state.Usual document := by
  have hintro : ¬ Output.AsksForTitle (Shell.intro ++ "\n") := by decide +kernel
  have htemplate : template ({} : Settings).prompt = .ok (Shell.usual document width).template :=
    rfl
  have hsetting : ShellSetting.mk ⟨document, Builtin.registry⟩ (Shell.usual document width).template
      width = Shell.usual document width := rfl
  obtain ⟨shell, hopened, hsession⟩ :=
    Shell.exists_ofSession_eq_ok document width s.session s.clipboard (some [])
  have hcolours := s.trace.write_colours [Shell.intro ++ "\n"]
  have hwritten := Trace.write_eq_some_iff s.trace [Shell.intro ++ "\n"]
  simp only [openShell, htemplate, bind, Except.bind, hsetting, hopened, Except.mapError]
  generalize s.trace.write [Shell.intro ++ "\n"] = written at *
  obtain ⟨after, _ | fault⟩ := written
  · rw [← hsession] at hs
    exact ⟨after, _, rfl, hcolours, ⟨width, rfl⟩, hs⟩
  · obtain ⟨-, -, text, htext, hasks⟩ := (hwritten fault).mp rfl
    rw [List.mem_singleton.mp htext] at hasks
    exact absurd hasks hintro

end Program

end VitaeShell
