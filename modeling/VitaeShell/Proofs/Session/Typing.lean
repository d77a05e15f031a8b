import VitaeShell.Proofs.Session.Run
import VitaeShell.Resume.Sample

/-!
# How a line came to be typed

A line can be typed letter by letter, completed, recalled from the history or put in as a whole.
Whichever it was, only the input line, the cursor of the history and the completion have changed,
and a submitted line makes all three anew. What it answers and what it leaves behind therefore
depends on the line alone, and on what was there before the typing began.

Sessions that differ in these three only are *alike* (`Alike`). Editing goes from a session to an
alike one, and alike sessions cannot be told apart by submitting lines.

## Main results

* `Alike.submitLine_eq`: a line does the same in sessions that are alike.
* `submit_after_edits`: submitting what was typed is submitting the line at once.
-/

namespace VitaeShell.Session

/-- Sessions that differ at most in the input line, the cursor of the history and the
completion. -/
structure Alike (s t : Session) : Prop where
  fs_eq : t.fs = s.fs
  entries_eq : t.history.entries = s.history.entries
  log_eq : t.log = s.log

theorem Alike.refl (s : Session) : Alike s s :=
  ⟨rfl, rfl, rfl⟩

/-- Sessions that are alike to one another are alike all the way. -/
theorem Alike.trans {s t u : Session} (h : Alike s t) (h' : Alike t u) : Alike s u :=
  ⟨h'.fs_eq.trans h.fs_eq, h'.entries_eq.trans h.entries_eq, h'.log_eq.trans h.log_eq⟩

/-- **A line does the same in sessions that are alike.** -/
theorem Alike.submitLine_eq {s t : Session} (h : Alike s t) (setting : Setting)
    (clipboard : Clipboard) (line : String) :
    t.submitLine setting clipboard line = s.submitLine setting clipboard line := by
  -- the cursors are all that is left of the histories to differ, and both are reset
  have hhistory (known : Bool) :
      (if known then t.history.record line else t.history).resetCursor =
        (if known then s.history.record line else s.history).resetCursor := by
    cases known with
    | true => simp [History.record, History.resetCursor, h.entries_eq]
    | false => simp [History.resetCursor, h.entries_eq]
  simp only [submitLine, h.fs_eq, h.log_eq, hhistory]

/-- An operation on the input line: a key that completes, recalls, types or erases, or a text put in
its place. -/
def Op.edits : Op → Bool
  | .press .tab _ | .press .arrowUp _ | .press .arrowDown _ | .press .character _
  | .press .backspace _ | .setInput _ => true
  | .press .interrupt _ | .press .clearScreen _ | .submit _ | .refresh | .script _ => false

/-- Editing leads to an alike session, and does not use the clipboard. -/
theorem alike_step (setting : Setting) (s : Session) (clipboard : Clipboard) {op : Op}
    (hop : op.edits = true) :
    Alike s (s.step setting clipboard op).session ∧
      (s.step setting clipboard op).clipboard = clipboard := by
  cases op with
  | press key character =>
      refine ⟨⟨press_fs .., press_entries .., ?_⟩, rfl⟩
      cases key with
      | interrupt | clearScreen => cases hop
      | tab | arrowUp | arrowDown | character | backspace => rfl
  | setInput text => exact ⟨⟨rfl, rfl, rfl⟩, rfl⟩
  | submit line | refresh | script lines => cases hop

/-- So does each operation of a run that only edits. -/
theorem alike_of_mem_run (setting : Setting) (s : Session) (clipboard : Clipboard) {ops : List Op}
    (hops : ∀ op ∈ ops, op.edits = true) :
    ∀ entry ∈ run setting s clipboard ops,
      Alike s entry.2.session ∧ entry.2.clipboard = clipboard := by
  induction ops generalizing s clipboard with
  | nil =>
      intro entry hentry
      cases hentry
  | cons op ops ih =>
      intro entry hentry
      obtain ⟨halike, hclipboard⟩ := alike_step setting s clipboard (hops op (.head _))
      rw [run] at hentry
      rcases List.mem_cons.mp hentry with rfl | hentry
      · exact ⟨halike, hclipboard⟩
      · obtain ⟨hrest, hclipboard'⟩ := ih (s.step setting clipboard op).session
          (s.step setting clipboard op).clipboard (fun other hother => hops other (.tail _ hother))
          entry hentry
        exact ⟨halike.trans hrest, hclipboard'.trans hclipboard⟩

/-- Edits leave a session alike, and the clipboard as it is. -/
theorem alike_after (setting : Setting) (s : Session) (clipboard : Clipboard) {ops : List Op}
    (hops : ∀ op ∈ ops, op.edits = true) :
    Alike s (after setting s clipboard ops).1 ∧ (after setting s clipboard ops).2 = clipboard := by
  by_cases hne : ops = []
  · subst hne
    exact ⟨.refl s, rfl⟩
  · obtain ⟨entry, hentry, hafter⟩ := exists_mem_run_after_eq setting s clipboard hne
    rw [hafter]
    exact alike_of_mem_run setting s clipboard hops entry hentry

/-- **How a line was typed leaves no trace.** However the input was edited, the file system, the
entries of the history, the log and the clipboard have stayed as they were all along. Submitting the
input then does the same as submitting that line to begin with: the output, the reports, the
clipboard and the whole session that is left are equal. -/
theorem submit_after_edits (setting : Setting) (s : Session) (clipboard : Clipboard)
    {ops : List Op} (hops : ∀ op ∈ ops, op.edits = true) :
    (∀ entry ∈ run setting s clipboard ops,
      entry.2.session.fs = s.fs ∧
      entry.2.session.history.entries = s.history.entries ∧
      entry.2.session.log = s.log ∧
      entry.2.clipboard = clipboard) ∧
    let typed := after setting s clipboard ops
    typed.1.submit setting typed.2 none = s.submit setting clipboard (some typed.1.input) := by
  refine ⟨fun entry hentry => ?_, ?_⟩
  · obtain ⟨halike, hclipboard⟩ := alike_of_mem_run setting s clipboard hops entry hentry
    exact ⟨halike.fs_eq, halike.entries_eq, halike.log_eq, hclipboard⟩
  · obtain ⟨halike, hclipboard⟩ := alike_after setting s clipboard hops
    simp only [submit, Option.getD_none, Option.getD_some, hclipboard]
    exact halike.submitLine_eq setting clipboard _

/-- A session in which a line has been run. -/
def begunWithPwd : Session :=
  ((start ⟨.ofResume .sample, Builtin.registry⟩).1.submitLine ⟨.ofResume .sample, Builtin.registry⟩
    .willing "pwd").session

/-- The last line is recalled and given up, and another one begun and completed. -/
def fumbling : List Op :=
  [.press .arrowUp "", .press .backspace "", .setInput " cd e\t", .press .tab "", .press .tab ""]

/-- A line that is submitted after such keys does what it does without them. -/
theorem submit_after_fumbling :
    (∀ op ∈ fumbling, op.edits = true) ∧
      let setting : Setting := ⟨.ofResume .sample, Builtin.registry⟩
      let typed := after setting begunWithPwd .willing fumbling
      typed.1.submit setting typed.2 none =
        begunWithPwd.submit setting .willing (some "cd education") := by
  have hops : ∀ op ∈ fumbling, op.edits = true := by decide
  have hinput : (after ⟨.ofResume .sample, Builtin.registry⟩ begunWithPwd .willing
      fumbling).1.input = "cd education" := by
    decide +kernel
  refine ⟨hops, ?_⟩
  rw [← hinput]
  exact (submit_after_edits ⟨.ofResume .sample, Builtin.registry⟩ begunWithPwd .willing hops).2

end VitaeShell.Session
