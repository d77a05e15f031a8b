import VitaeShell.Session

/-!
# Runs of a session

A run performs one operation after the other, each on the session and the clipboard that the one
before left behind (`Session.run`); what the last one leaves is `Session.after`. What every step
keeps holds after each operation of every run (`forall_mem_run`), so that a property of runs is one
of steps.

Only two operations say anything: a submitted line and a script. What a key returns is the input
line, which holds what the user typed, and is no output (`Op.outputs`).

What a run leaves behind is a state that operations lead to from a new session (`Reached`). For a
property of one state this is all there is to know about the run.

## Main results

* `forall_mem_run`: a property that steps keep holds throughout a run.
* `reached_of_mem_run`: a run goes through reached states only.
* `forall_runScript`: a property that submitted lines keep is kept by a script.
-/

namespace VitaeShell.Session

/-- The operations of a run, each with what it leaves behind. -/
def run (setting : Setting) (s : Session) (clipboard : Clipboard) :
    List Op → List (Op × Step Return)
  | [] => []
  | op :: ops =>
    let next := s.step setting clipboard op
    (op, next) :: run setting next.session next.clipboard ops

/-- The session and the clipboard that a run leaves behind. -/
def after (setting : Setting) (s : Session) (clipboard : Clipboard) : List Op → Session × Clipboard
  | [] => (s, clipboard)
  | op :: ops =>
    let next := s.step setting clipboard op
    after setting next.session next.clipboard ops

/-- The outputs among what an operation returns. -/
def Op.outputs : Op → Return → List String
  | .submit _, .text output => [output]
  | .script _, .texts outputs => outputs
  | _, _ => []

/-- **A property that steps of a kind keep holds throughout a run of them**, together with what each
step warrants of its own result. -/
theorem forall_mem_run_of {setting : Setting} {P : Session → Prop} {Q : Op → Step Return → Prop}
    {K : Op → Prop} (hstep : ∀ s clipboard op, K op → P s →
      P (s.step setting clipboard op).session ∧ Q op (s.step setting clipboard op))
    {s : Session} (hs : P s) (clipboard : Clipboard) {ops : List Op} (hops : ∀ op ∈ ops, K op) :
    ∀ entry ∈ run setting s clipboard ops, P entry.2.session ∧ Q entry.1 entry.2 := by
  induction ops generalizing s clipboard with
  | nil =>
      intro entry hentry
      cases hentry
  | cons op ops ih =>
      intro entry hentry
      obtain ⟨hop, hops⟩ := List.forall_mem_cons.mp hops
      rw [run] at hentry
      rcases List.mem_cons.mp hentry with rfl | hentry
      · exact hstep s clipboard op hop hs
      · exact ih (hstep s clipboard op hop hs).1 _ hops entry hentry

/-- **A property that steps keep holds throughout a run**, together with what each step warrants of
its own result. -/
theorem forall_mem_run {setting : Setting} {P : Session → Prop} {Q : Op → Step Return → Prop}
    (hstep : ∀ s clipboard op, P s → P (s.step setting clipboard op).session ∧
      Q op (s.step setting clipboard op))
    {s : Session} (hs : P s) (clipboard : Clipboard) (ops : List Op) :
    ∀ entry ∈ run setting s clipboard ops, P entry.2.session ∧ Q entry.1 entry.2 :=
  forall_mem_run_of (K := fun _ => True) (fun s clipboard op _ => hstep s clipboard op) hs
    clipboard fun _ _ => trivial

/-- A run goes on from what its first part leaves behind. -/
theorem run_append (setting : Setting) (s : Session) (clipboard : Clipboard)
    (ops more : List Op) :
    run setting s clipboard (ops ++ more) =
      run setting s clipboard ops ++
        run setting (after setting s clipboard ops).1 (after setting s clipboard ops).2 more := by
  induction ops generalizing s clipboard with
  | nil => rfl
  | cons op ops ih => rw [List.cons_append, run, run, after, ih, List.cons_append]

/-- What a run leaves behind, its last operation leaves behind. -/
theorem exists_mem_run_after_eq (setting : Setting) (s : Session) (clipboard : Clipboard)
    {ops : List Op} (hne : ops ≠ []) :
    ∃ entry ∈ run setting s clipboard ops,
      after setting s clipboard ops = (entry.2.session, entry.2.clipboard) := by
  induction ops generalizing s clipboard with
  | nil => exact absurd rfl hne
  | cons op ops ih =>
      rw [run, after]
      by_cases hrest : ops = []
      · subst hrest
        exact ⟨_, .head _, rfl⟩
      · obtain ⟨entry, hentry, hafter⟩ := ih (s.step setting clipboard op).session
          (s.step setting clipboard op).clipboard hrest
        exact ⟨entry, .tail _ hentry, hafter⟩

/-- The **reached** states of a session: that of a new one, and those that an operation leaves
behind in a reached state. The clipboard may be another one each time. -/
inductive Reached (setting : Setting) : Session → Prop
  | start : Reached setting (start setting).1
  | step {s : Session} (clipboard : Clipboard) (op : Op) :
      Reached setting s → Reached setting (s.step setting clipboard op).session

/-- A submitted line leaves a reached state behind. -/
theorem Reached.submitLine {setting : Setting} {s : Session} (hs : Reached setting s)
    (clipboard : Clipboard) (line : String) :
    Reached setting (s.submitLine setting clipboard line).session :=
  hs.step clipboard (.submit (some line))

/-- A run from a new session goes through reached states only. -/
theorem reached_of_mem_run (setting : Setting) (clipboard : Clipboard) (ops : List Op) :
    ∀ entry ∈ run setting (start setting).1 clipboard ops,
      Reached setting entry.2.session := by
  intro entry hentry
  exact (forall_mem_run (P := Reached setting) (Q := fun _ _ => True)
    (fun _ clipboard op hs => ⟨hs.step clipboard op, trivial⟩) .start clipboard ops entry hentry).1

/-- A property that submitted lines keep is kept by a script, and what each line warrants of its
output holds of all outputs. -/
theorem forall_runScript {setting : Setting} {P : Session → Prop} {Q : String → Prop}
    (hsubmit : ∀ s clipboard line, P s → P (s.submitLine setting clipboard line).session ∧
      Q (s.submitLine setting clipboard line).result)
    {s : Session} (hs : P s) (clipboard : Clipboard) (lines : List String) :
    P (s.runScript setting clipboard lines).session ∧
      ∀ output ∈ (s.runScript setting clipboard lines).result, Q output := by
  induction lines generalizing s clipboard with
  | nil => exact ⟨hs, by simp [runScript]⟩
  | cons raw lines ih =>
      rw [runScript]
      by_cases hrunnable : isRunnable (scriptLine raw) = true
      · have hfirst := hsubmit s clipboard (scriptLine raw) hs
        obtain ⟨hsession, houtputs⟩ :=
          ih hfirst.1 (s.submitLine setting clipboard (scriptLine raw)).clipboard
        rw [if_neg (by simp [hrunnable])]
        refine ⟨hsession, ?_⟩
        intro output houtput
        rcases List.mem_cons.mp houtput with rfl | houtput
        · exact hfirst.2
        · exact houtputs output houtput
      · rw [if_pos (by simp [hrunnable])]
        exact ih hs clipboard

/-! ### What leaves the file system alone -/

/-- No key changes the file system. -/
theorem press_fs (setting : Setting) (s : Session) (key : Key) (character : String) :
    (s.press setting key character).fs = s.fs := by
  cases key <;> rfl

/-- A submitted line leaves the file system that its command leaves. -/
theorem submitLine_fs (setting : Setting) (s : Session) (clipboard : Clipboard) (line : String) :
    (s.submitLine setting clipboard line).session.fs =
      (setting.registry.run (CommandLine.parse line) s.fs clipboard).answer.fs := rfl

/-- The result of a line is the output of its command. -/
theorem submitLine_result (setting : Setting) (s : Session) (clipboard : Clipboard)
    (line : String) :
    (s.submitLine setting clipboard line).result =
      (setting.registry.run (CommandLine.parse line) s.fs clipboard).answer.output := rfl

/-- Only the command of a submitted line reaches the clipboard. -/
theorem submitLine_clipboard (setting : Setting) (s : Session) (clipboard : Clipboard)
    (line : String) :
    (s.submitLine setting clipboard line).clipboard =
      (setting.registry.run (CommandLine.parse line) s.fs clipboard).clipboard := rfl

/-- A new session has the file system of its document. -/
theorem start_fs (setting : Setting) : (start setting).1.fs = setting.document.file.1 := rfl

/-! ### What leaves the entries of the history alone -/

/-- Walking back through the history moves its cursor only. -/
theorem entries_previous (h : History) : h.previous.2.entries = h.entries := by
  rw [History.previous]
  split <;> rfl

/-- Walking forth through the history moves its cursor only. -/
theorem entries_next (h : History) : h.next.2.entries = h.entries := by
  rw [History.next]
  split
  · rfl
  · split <;> rfl

/-- No key changes the entries of the history. -/
theorem press_entries (setting : Setting) (s : Session) (key : Key) (character : String) :
    (s.press setting key character).history.entries = s.history.entries := by
  cases key with
  | arrowUp => exact entries_previous s.history
  | arrowDown => exact entries_next s.history
  | tab | character | backspace | interrupt | clearScreen => rfl

/-- A submitted line enters the history if it names a command. -/
theorem submitLine_entries (setting : Setting) (s : Session) (clipboard : Clipboard)
    (line : String) :
    (s.submitLine setting clipboard line).session.history.entries =
      if setting.registry.knows (CommandLine.parse line) then s.history.entries ++ [line]
      else s.history.entries := by
  simp only [submitLine, History.resetCursor]
  split <;> rfl

/-- What is left in the log after a line was submitted. -/
theorem submitLine_log (setting : Setting) (s : Session) (clipboard : Clipboard) (line : String) :
    (s.submitLine setting clipboard line).session.log =
      if (s.submitLine setting clipboard line).result = clearSignal then []
      else s.log ++ [echo line, (s.submitLine setting clipboard line).result] := rfl

end VitaeShell.Session
