import VitaeShell.Command.Builtin
import VitaeShell.Completion
import VitaeShell.History
import VitaeShell.Resume.Filing

/-!
# Sessions

One user at the terminal: the file system, the history, the input line with its completion, and the
log of what has been shown. A session runs in a `Setting` that never changes, and every operation
takes the clipboard along (`Session.step`).
-/

namespace VitaeShell

/-- What a session is opened on. -/
structure Setting where
  document : Document
  registry : Registry := Builtin.registry

/-- The state of a session. -/
structure Session where
  fs : FileSystem
  history : History := .empty
  completion : Completion := .idle
  input : String := ""
  log : List String := []

/-- What one operation leaves behind: a result with the session, the clipboard and what there is to
report. -/
structure Step (α : Type) where
  result : α
  session : Session
  clipboard : Clipboard
  notices : List Notice := []

namespace Session

/-- A new session, with what there is to report about its document. -/
def start (setting : Setting) : Session × List Notice :=
  let (fs, notices) := setting.document.file
  ({ fs := fs }, notices)

/-- The line that stands in the log for an input. -/
def echo (line : String) : String :=
  "$ " ++ line

/-- Runs a line. It enters the history only if it names a command; an output that asks for an empty
screen empties the log. -/
def submitLine (setting : Setting) (s : Session) (clipboard : Clipboard) (line : String) :
    Step String :=
  let command := CommandLine.parse line
  let outcome := setting.registry.run command s.fs clipboard
  let output := outcome.answer.output
  { result := output
    session :=
      { fs := outcome.answer.fs
        history :=
          (if setting.registry.knows command then s.history.record line else s.history).resetCursor
        completion := .idle
        input := ""
        log := if output = clearSignal then [] else s.log ++ [echo line, output] }
    clipboard := outcome.clipboard
    notices := outcome.notices }

/-- Runs the given line, or else the input. -/
def submit (setting : Setting) (s : Session) (clipboard : Clipboard) (line : Option String) :
    Step String :=
  s.submitLine setting clipboard (line.getD s.input)

/-- Shows a recalled line, if there is one. -/
def browse (s : Session) (recalled : Option String × History) : Session :=
  { s with
    history := recalled.2
    completion := .idle
    input := recalled.1.getD s.input }

/-- What a key does. An interrupt leaves the line in the log; clearing the screen keeps the
input. -/
def press (setting : Setting) (s : Session) (key : Key) (character : String) : Session :=
  match key with
  | .interrupt =>
    { s with
      log := s.log ++ [echo s.input, "^C"]
      input := ""
      history := s.history.resetCursor
      completion := .idle }
  | .clearScreen => { s with log := [], completion := .idle }
  | .arrowUp => s.browse s.history.previous
  | .arrowDown => s.browse s.history.next
  | key =>
    let candidates := Completion.candidates setting.registry s.fs s.input
    let (completion, input) := s.completion.press key character s.input candidates
    { s with completion := completion, input := input }

/-- Puts a text in place of the input, without control characters and blanks around it. -/
def setInput (s : Session) (text : String) : Session :=
  { s with
    input := String.ofList (Text.trim (stripControl text.toList))
    completion := .idle }

/-- Starts over: files the document anew, and forgets everything else. -/
def refresh (setting : Setting) (s : Session) : Session × List Notice :=
  let (fs, notices) := setting.document.file
  ({ s with
      fs := fs
      history := s.history.clear
      completion := .idle
      input := ""
      log := [] }, notices)

/-! ### Scripts -/

/-- A line of a script without the newlines at its end. -/
def scriptLine (line : String) : String :=
  String.ofList (line.toList.reverse.dropWhile (· = '\n')).reverse

/-- Whether a line of a script is to be run: it is neither blank nor a comment. -/
def isRunnable (line : String) : Bool :=
  !Text.isBlankText line && (Text.trimStart line.toList).head? ≠ some '#'

/-- Runs the lines of a script, and collects the outputs. -/
def runScript (setting : Setting) (s : Session) (clipboard : Clipboard) :
    List String → Step (List String)
  | [] => ⟨[], s, clipboard, []⟩
  | raw :: rest =>
    let line := scriptLine raw
    if !isRunnable line then runScript setting s clipboard rest
    else
      let first := s.submitLine setting clipboard line
      let others := runScript setting first.session first.clipboard rest
      { others with
        result := first.result :: others.result
        notices := first.notices ++ others.notices }

/-! ### Operations -/

/-- An operation on a session. -/
inductive Op where
  | submit (line : Option String)
  | press (key : Key) (character : String)
  | setInput (text : String)
  | refresh
  | script (lines : List String)
deriving DecidableEq, Repr

/-- What an operation returns. -/
inductive Return where
  | none
  | text (value : String)
  | texts (values : List String)
deriving DecidableEq, Repr

/-- Performs an operation. -/
def step (setting : Setting) (s : Session) (clipboard : Clipboard) : Op → Step Return
  | .submit line =>
    let run := s.submit setting clipboard line
    { run with result := .text run.result }
  | .press key character =>
    let s := s.press setting key character
    ⟨.text s.input, s, clipboard, []⟩
  | .setInput text => ⟨.none, s.setInput text, clipboard, []⟩
  | .refresh =>
    let (s, notices) := s.refresh setting
    ⟨.none, s, clipboard, notices⟩
  | .script lines =>
    let run := s.runScript setting clipboard lines
    { run with result := .texts run.result }

end Session

end VitaeShell
