import Mathlib.Data.List.DropRight
import VitaeShell.Proofs.Session.Run

/-!
# What a session keeps of its past

The history and the log are changed by many operations, each in its own way, and some clear one of
them only. Still both can be read off what has happened (`Event`), without a look at the session:
the history holds the lines since the last refresh that name a command, and the log holds what was
shown since it was cleared last.

What happens in an operation is told from the input line before it and from what it returns
(`Op.events`). Most operations let nothing happen in this sense, and leave both lists as they are.

## Main results

* `Keeps.submitLine`, `Keeps.step`: what keeps a trace goes on to keep it with the next events.
* `Keeps.after`: so does a whole run.
* `entries_log_after`: what a run from a new session leaves behind, in terms of its events.
-/

namespace VitaeShell.Session

/-- Something that happens in a session and that its history or its log may show. -/
inductive Event where
  /-- A line was submitted, and answered. -/
  | submitted (line output : String)
  /-- The input line was given up. -/
  | interrupted (input : String)
  /-- The screen was cleared by a key. -/
  | cleared
  /-- The session was started over. -/
  | refreshed
deriving DecidableEq, Repr

namespace Event

/-- Whether the history is empty afterwards, whatever it was. -/
def restarts : Event → Bool
  | refreshed => true
  | submitted _ _ | interrupted _ | cleared => false

/-- Whether the log is empty afterwards, whatever it was. -/
def clears : Event → Bool
  | submitted _ output => output = clearSignal
  | interrupted _ => false
  | cleared | refreshed => true

/-- The line that enters the history. It has to name a command, which may then fail. -/
def recorded? (registry : Registry) : Event → Option String
  | submitted line _ => if registry.knows (CommandLine.parse line) then some line else none
  | interrupted _ | cleared | refreshed => none

/-- What enters the log. -/
def logged : Event → List String
  | submitted line output => [echo line, output]
  | interrupted input => [echo input, "^C"]
  | cleared | refreshed => []

end Event

/-- The lines of a script that are run. -/
def runnableLines (lines : List String) : List String :=
  (lines.map scriptLine).filter isRunnable

/-- What happens when a key is pressed. -/
def keyEvents (input : String) : Key → List Event
  | .interrupt => [.interrupted input]
  | .clearScreen => [.cleared]
  | .tab | .arrowUp | .arrowDown | .character | .backspace => []

/-- What happens in an operation, by the input line before it and by what it returns. -/
def Op.events (input : String) : Op → Return → List Event
  | .submit line, .text output => [.submitted (line.getD input) output]
  | .press key _, _ => keyEvents input key
  | .setInput _, _ => []
  | .refresh, _ => [.refreshed]
  | .script lines, .texts outputs => (runnableLines lines).zipWith .submitted outputs
  | .submit _, _ | .script _, _ => []

/-- What happens in a run. -/
def trace (setting : Setting) (s : Session) (clipboard : Clipboard) : List Op → List Event
  | [] => []
  | op :: ops =>
    let next := s.step setting clipboard op
    op.events s.input next.result ++ trace setting next.session next.clipboard ops

/-- The events since the last one of a kind. -/
def since (kind : Event → Bool) (events : List Event) : List Event :=
  events.rtakeWhile fun event => !kind event

/-- Nothing has happened since an event of the kind that came last. -/
theorem since_concat_of_pos {kind : Event → Bool} {event : Event} (h : kind event = true)
    (events : List Event) : since kind (events ++ [event]) = [] := by
  rw [since, List.rtakeWhile_concat_neg _ _ _ (by simp [h])]

/-- Any other event adds to what has happened since. -/
theorem since_concat_of_neg {kind : Event → Bool} {event : Event} (h : kind event = false)
    (events : List Event) : since kind (events ++ [event]) = since kind events ++ [event] := by
  rw [since, List.rtakeWhile_concat_pos _ _ _ (by simp [h]), since]

/-- A session **keeps** a trace: its history holds the recorded lines since the last refresh, and
its log what was shown since it was cleared last. -/
structure Keeps (registry : Registry) (events : List Event) (s : Session) : Prop where
  entries_eq : s.history.entries =
    (since Event.restarts events).filterMap (Event.recorded? registry)
  log_eq : s.log = (since Event.clears events).flatMap Event.logged

section

variable {setting : Setting} {events : List Event} {s : Session}

/-- A new session keeps nothing. -/
theorem keeps_start (setting : Setting) : Keeps setting.registry [] (start setting).1 :=
  ⟨rfl, rfl⟩

/-- **A submitted line and its output are kept.** -/
theorem Keeps.submitLine (h : Keeps setting.registry events s) (clipboard : Clipboard)
    (line : String) :
    Keeps setting.registry
      (events ++ [.submitted line (s.submitLine setting clipboard line).result])
      (s.submitLine setting clipboard line).session := by
  constructor
  · rw [submitLine_entries, since_concat_of_neg rfl, List.filterMap_append, ← h.entries_eq]
    by_cases hknows : setting.registry.knows (CommandLine.parse line) = true
    · simp [Event.recorded?, hknows]
    · simp [Event.recorded?, hknows]
  · rw [submitLine_log]
    split
    · next hclear => rw [since_concat_of_pos (decide_eq_true hclear), List.flatMap_nil]
    · next hkept =>
        rw [since_concat_of_neg (decide_eq_false hkept), List.flatMap_append, ← h.log_eq,
          List.flatMap_singleton, Event.logged]

/-- The lines of a script are kept one after the other. -/
theorem Keeps.runScript (h : Keeps setting.registry events s) (clipboard : Clipboard)
    (lines : List String) :
    Keeps setting.registry
      (events ++
        (runnableLines lines).zipWith .submitted (s.runScript setting clipboard lines).result)
      (s.runScript setting clipboard lines).session := by
  induction lines generalizing events s clipboard with
  | nil => simpa [runnableLines, Session.runScript] using h
  | cons raw lines ih =>
      rw [Session.runScript, runnableLines, List.map_cons]
      by_cases hrunnable : isRunnable (scriptLine raw) = true
      · have hrest := ih (h.submitLine clipboard (scriptLine raw))
          (s.submitLine setting clipboard (scriptLine raw)).clipboard
        rw [List.append_assoc] at hrest
        rw [if_neg (by simp [hrunnable]), List.filter_cons_of_pos hrunnable]
        exact hrest
      · rw [if_pos (by simp [hrunnable]), List.filter_cons_of_neg hrunnable]
        exact ih h clipboard

/-- What a key does is kept. -/
theorem Keeps.press (h : Keeps setting.registry events s) (key : Key) (character : String) :
    Keeps setting.registry (events ++ keyEvents s.input key) (s.press setting key character) := by
  constructor
  · rw [press_entries, h.entries_eq]
    cases key with
    | interrupt | clearScreen =>
        rw [keyEvents, since_concat_of_neg rfl, List.filterMap_append]
        exact (List.append_nil _).symm
    | tab | arrowUp | arrowDown | character | backspace => rw [keyEvents, List.append_nil]
  · cases key with
    | interrupt =>
        rw [keyEvents, since_concat_of_neg rfl, List.flatMap_append, ← h.log_eq]
        rfl
    | clearScreen =>
        rw [keyEvents, since_concat_of_pos rfl]
        rfl
    | tab | arrowUp | arrowDown | character | backspace =>
        rw [keyEvents, List.append_nil, ← h.log_eq]
        rfl

/-- **Every operation is kept by its events.** -/
theorem Keeps.step (h : Keeps setting.registry events s) (clipboard : Clipboard) (op : Op) :
    Keeps setting.registry (events ++ op.events s.input (s.step setting clipboard op).result)
      (s.step setting clipboard op).session := by
  cases op with
  | submit line => exact h.submitLine clipboard (line.getD s.input)
  | press key character => exact h.press key character
  | setInput text =>
      rw [Op.events, List.append_nil]
      exact ⟨h.entries_eq, h.log_eq⟩
  | refresh =>
      rw [Op.events]
      constructor
      · rw [since_concat_of_pos rfl]
        rfl
      · rw [since_concat_of_pos rfl]
        rfl
  | script lines => exact h.runScript clipboard lines

/-- What a run leaves behind keeps its events. -/
theorem Keeps.after (h : Keeps setting.registry events s) (clipboard : Clipboard)
    (ops : List Op) :
    Keeps setting.registry (events ++ trace setting s clipboard ops)
      (after setting s clipboard ops).1 := by
  induction ops generalizing events s clipboard with
  | nil => simpa [trace, Session.after] using h
  | cons op ops ih =>
      rw [trace, Session.after, ← List.append_assoc]
      exact ih (h.step clipboard op) _

end

/-- **The history and the log are read off the trace.** After a run from a new session, with any
commands, the history holds the lines submitted since the last refresh that name a command, and the
log holds each line with its output and each interrupted input since it was cleared last. An
operation in which nothing happens leaves both as they are. -/
theorem entries_log_after (setting : Setting) (clipboard : Clipboard) (ops : List Op) :
    let events := trace setting (start setting).1 clipboard ops
    let s := (after setting (start setting).1 clipboard ops).1
    s.history.entries =
        (since Event.restarts events).filterMap (Event.recorded? setting.registry) ∧
      s.log = (since Event.clears events).flatMap Event.logged ∧
      ∀ (clipboard' : Clipboard) (op : Op),
        op.events s.input (s.step setting clipboard' op).result = [] →
        (s.step setting clipboard' op).session.history.entries = s.history.entries ∧
        (s.step setting clipboard' op).session.log = s.log := by
  intro events s
  have hkept : Keeps setting.registry events s := (keeps_start setting).after clipboard ops
  refine ⟨hkept.entries_eq, hkept.log_eq, fun clipboard' op hquiet => ?_⟩
  have hnext := hkept.step clipboard' op
  rw [hquiet, List.append_nil] at hnext
  exact ⟨hnext.entries_eq.trans hkept.entries_eq.symm, hnext.log_eq.trans hkept.log_eq.symm⟩

/-- A terminal with two commands of its own: one fails, and one says what clears the screen. -/
def rough : Setting where
  document := .missing
  registry := Builtin.registry ++
    [("boom", ⟨⟨"", "boom", []⟩, .failing "no"⟩), ("wipe", ⟨⟨"", "wipe", []⟩, .saying clearSignal⟩)]

/-- Lines that fail, that clear the screen, that are given up and that name nothing. -/
def roughly : List Op :=
  [.submit (some "pwd"), .refresh, .submit (some "Boom 1"), .submit (some "wipe"),
    .press .character "ab", .press .interrupt "", .script ["# note", " boom", "nope"],
    .press .arrowUp ""]

/-- Events of all kinds leave the history and the log that they are said to leave. -/
theorem entries_log_after_roughly :
    let s := (after rough (start rough).1 .willing roughly).1
    s.history.entries = ["Boom 1", "wipe", " boom"] ∧
      s.log = ["$ ab", "^C", "$  boom", "Error: 'boom' failed: no", "$ nope",
        Registry.unknownMessage "nope"] ∧
      (s.step rough .willing (.press .tab "")).session.log = s.log := by
  intro s
  obtain ⟨hentries, hlog, hquiet⟩ := entries_log_after rough .willing roughly
  have htrace : trace rough (start rough).1 .willing roughly =
      [.submitted "pwd" "/", .refreshed, .submitted "Boom 1" "Error: 'boom' failed: no",
        .submitted "wipe" clearSignal, .interrupted "ab",
        .submitted " boom" "Error: 'boom' failed: no",
        .submitted "nope" (Registry.unknownMessage "nope")] := by
    decide +kernel
  rw [htrace] at hentries hlog
  refine ⟨?_, ?_, (hquiet .willing (.press .tab "") rfl).2⟩
  · rw [hentries]
    decide +kernel
  · rw [hlog]
    decide +kernel

end VitaeShell.Session
