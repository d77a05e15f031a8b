import VitaeShell.Screen.Drawing
import VitaeShell.Session
import VitaeShell.Template

/-!
# The interactive shell

The front end of a session: it takes a line, hands it to the session or runs one of its own commands
(`refresh`, `exit`, `quit`, end of input), and draws what comes back. Beside the session it keeps
the lines that the editor offers for recall, of which only those stay that the session recorded.

A line can still fail to be drawn; `Run` then holds the fault, with all that happened before it.
-/

namespace VitaeShell

/-- What a shell is opened on. -/
structure ShellSetting extends Setting where
  /-- The template of the prompt, in which `cwd` is the current directory. -/
  template : String := "guest@resume:\x7bcwd\x7d$ "
  /-- The width of the terminal. -/
  width : Int := 80

/-- The state of a shell. -/
structure Shell where
  session : Session
  clipboard : Clipboard
  /-- The lines that the editor offers for recall; none without such an editor. -/
  recallable : Option (List String)
  /-- The line as it was typed last. -/
  typed : String := ""
  prompt : String
  /-- The number of glyphs that matrices have used. -/
  glyphs : Nat := 0

/-- Why a line fails. -/
inductive ShellFault where
  | template (fault : Template.Fault)
  | draw (fault : DrawFault)
deriving DecidableEq, Repr

/-- What came of a line: the pieces that were written one after the other, what there is to report,
and a result or a fault. -/
structure Run (α : Type) where
  result : Except ShellFault α
  shell : Shell
  writes : List String := []
  notices : List Notice := []

namespace Shell

/-! ### Texts of the shell -/

/-- A text as its own line. -/
def printed (text : String) : List String :=
  [text, "\n"]

/-- A remark of the shell. -/
def remark (text : String) : String :=
  (Screen.coloured .magenta text).toText

/-- The greeting. -/
def intro : String :=
  remark "ResumeTerminal - type 'help' to list commands, 'exit' to leave."

/-- The sequence that clears the terminal. -/
def clearSequence : String := "\x1bc"

/-- The prompt for a directory. -/
def promptFor (template : String) (cwd : Path) : Except Template.Fault String := do
  let text ← Template.expand template "cwd" (Path.format cwd)
  return Code.green.sequence ++ text ++ resetSequence

/-! ### Opening -/

/-- A shell over a session. Its template is expanded at once. -/
def ofSession (setting : ShellSetting) (session : Session) (clipboard : Clipboard)
    (recallable : Option (List String)) : Except Template.Fault Shell := do
  return { session, clipboard, recallable, prompt := ← promptFor setting.template session.fs.cwd }

/-! ### Lines for recall -/

/-- Drops a line if it is the last one. -/
def dropLast (line : String) (lines : List String) : List String :=
  if lines.getLast? = some line then lines.dropLast else lines

/-- Forgets a line, if it is the last that could be recalled. -/
def forget (shell : Shell) (line : String) : Shell :=
  { shell with recallable := shell.recallable.map (dropLast line) }

/-- Keeps a line for recall; an empty one is not kept. -/
def keep (shell : Shell) (line : String) : Shell :=
  if line = "" then shell
  else { shell with recallable := shell.recallable.map (· ++ [line]) }

/-! ### Running lines -/

/-- The line as it was typed, if it differs from the given one in the blanks around it only. -/
def asTyped (shell : Shell) (line : String) : String :=
  if Text.strip shell.typed = Text.strip line then shell.typed else line

/-- Submits a line to the session and draws what it answers. -/
def submit (setting : ShellSetting) (shell : Shell) (line : String) : Run Unit :=
  let step := shell.session.submitLine setting.toSetting shell.clipboard line
  let recorded := step.session.history.entries.length ≠ shell.session.history.entries.length
  let after := { shell with session := step.session, clipboard := step.clipboard }
  let after := if recorded then after else after.forget line
  if step.result = clearSignal then
    { result := .ok (), shell := after, writes := [clearSequence, ""], notices := step.notices }
  else
    match drawOutput setting.width shell.glyphs step.result with
    | .ok (screen, glyphs) =>
      { result := .ok ()
        shell := { after with glyphs := glyphs }
        writes := printed screen.toText
        notices := step.notices }
    | .error fault => { result := .error (.draw fault), shell := after, notices := step.notices }

/-- What a line that is none of the shell's own commands does: it is submitted as it was typed. A
blank one does nothing. -/
def submitTyped (setting : ShellSetting) (shell : Shell) (line : String) : Run Unit :=
  if Text.isBlankText line then { result := .ok (), shell := shell }
  else shell.submit setting (shell.asTyped line)

/-- The first word of a line as the shell sees it, of ASCII letters, digits and underscores, and the
rest without blanks around it. A question mark in front stands for `help`; a line with an
exclamation mark in front has no first word. -/
def splitCommand (line : List Char) : List Char × List Char × List Char :=
  let line := match line with
    | '?' :: rest => "help ".toList ++ rest
    | _ => line
  let word := line.takeWhile fun c => (c.toNat < 0x80 && c.isAlphanum) || c = '_'
  (word, Text.trim (line.drop word.length), line)

/-- Leaves the shell. -/
def leave (shell : Shell) : Run (Option Bool) :=
  { result := .ok (some true)
    shell := shell.forget shell.typed
    writes := printed (remark "Bye!") }

/-- Starts the session over. -/
def refresh (setting : ShellSetting) (shell : Shell) : Run Unit :=
  let (session, notices) := shell.session.refresh setting.toSetting
  { result := .ok ()
    shell := { shell with session := session, recallable := shell.recallable.map fun _ => [] }
    writes := printed (remark "Session refreshed.")
    notices := notices }

/-- A run that does not decide whether the shell goes on. -/
def undecided (run : Run Unit) : Run (Option Bool) :=
  { run with result := run.result.map fun _ => none }

/-- Runs a line as it was typed. The result says whether to leave, where that is decided. -/
def dispatch (setting : ShellSetting) (shell : Shell) (typed : String) : Run (Option Bool) :=
  let shell := { shell with typed := typed }
  let stripped := Text.trim typed.toList
  if stripped.isEmpty then { result := .ok (some false), shell := shell }
  else
    let (word, argument, line) := splitCommand stripped
    let argument := String.ofList argument
    match String.ofList word with
    | "help" =>
      undecided (shell.submit setting (shell.asTyped (Text.strip ("help " ++ argument))))
    | "refresh" => undecided (shell.refresh setting)
    | "exit" => shell.leave
    | "quit" => shell.leave
    | "EOF" =>
      let run := shell.leave
      { run with writes := "\n" :: run.writes }
    | _ => undecided (shell.submitTyped setting (String.ofList line))

/-- Brings the prompt up to date. -/
def updatePrompt (setting : ShellSetting) (shell : Shell) : Except Template.Fault Shell := do
  return { shell with prompt := ← promptFor setting.template shell.session.fs.cwd }

/-- Runs a line and brings the prompt up to date; after a fault the prompt stays. -/
def runLine (setting : ShellSetting) (shell : Shell) (typed : String) : Run (Option Bool) :=
  let run := shell.dispatch setting typed
  match run.result with
  | .error _ => run
  | .ok _ =>
    match run.shell.updatePrompt setting with
    | .ok shell => { run with shell := shell }
    | .error fault => { run with result := .error (.template fault) }

/-! ### Completing words -/

/-- The commands that start with a text. -/
def completeCommand (setting : ShellSetting) (text : String) : List String :=
  candidatesFor setting.registry.visibleNames text

/-- The entries of the current directory that start with a text. -/
def completeEntry (shell : Shell) (text : String) : List String :=
  match shell.session.fs.names with
  | .ok names => candidatesFor names text
  | .error _ => []

/-! ### The line editor -/

/-- What the line editor is told at the start, so that a repeated tab key goes through the
candidates; `description` tells the two kinds of editors apart. -/
def keyBindings (description : String) : List String :=
  if Text.occursIn "libedit".toList description.toList then ["bind ^I rl_complete"]
  else ["tab: menu-complete", "set completion-ignore-case on"]

/-- What an editor is told that may refuse: nothing more after the first refusal. -/
def keyBindingsTried (description : String) (refuses : Bool) : List String :=
  if refuses then (keyBindings description).take 1 else keyBindings description

end Shell

end VitaeShell
