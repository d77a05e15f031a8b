import VitaeShell.LogLevel
import VitaeShell.Options
import VitaeShell.Output
import VitaeShell.Resume.Loading
import VitaeShell.Settings
import VitaeShell.Shell

/-!
# The program

The whole program as a function of what it is called with. `Program.start` reads the command line,
the settings and the résumé and runs the startup script; `Running.feed` then takes the lines of the
user one by one. `Program.run` is both, over all lines.

What the program does to the outside is a `Trace`: the pieces it writes, its notices, and how it
ends.
-/

namespace VitaeShell

/-- What the program is called with. -/
structure Invocation where
  args : List String
  environment : Environment := []
  folder : Folder := {}
  /-- The width of the terminal, unless the environment tells another. -/
  terminalWidth : Int := 80
  /-- Whether the output goes to a terminal. -/
  terminal : Bool := false
  clipboard : Clipboard := .willing

/-- The variable that tells the width of the terminal. -/
def Invocation.widthVariable : String := "COLUMNS"

/-- The width that outputs are drawn for. -/
def Invocation.width (call : Invocation) : Int :=
  let told := (call.environment.lookup widthVariable).bind Numeral.int?
  (told.filter (0 < ·)).getD call.terminalWidth

/-- Why the program breaks off. -/
inductive ProgramFault where
  /-- The option for the settings file names none. -/
  | configNotNamed
  | settings (fault : Yaml.Fault)
  | level (fault : LogLevel.Fault)
  /-- The setting for the résumé file cannot be a path. -/
  | pathNotText
  /-- The setting for the résumé file is an open file and not a path. -/
  | pathIsOpenFile
  /-- The setting for the résumé file is a number too large for an open file. -/
  | pathTooLarge
  | resume (cause : Cause)
  | startup (fault : Folder.Fault)
  /-- The setting for the prompt is no template. -/
  | promptNotText
  /-- An output asks for a title, and goes where there is none. -/
  | titleAsked
  | shell (fault : ShellFault)
deriving DecidableEq, Repr

/-- The words for why the program breaks off. -/
def ProgramFault.message : ProgramFault → String
  | .configNotNamed => "no settings file is named"
  | .settings fault => "the settings file: " ++ fault.message
  | .level .notALevel => "the log level does not name a level"
  | .level .unknownLevel => "unknown log level"
  | .pathNotText => "the resume path is not a text"
  | .pathIsOpenFile => "the resume path is not a file"
  | .pathTooLarge => "the resume path is too large a number"
  | .resume cause => "the resume file: " ++ cause.message
  | .startup fault => "the startup script " ++ fault.message
  | .promptNotText => "the prompt is not a text"
  | .titleAsked => "an output asks for a title"
  | .shell (.template _) => "the prompt is not a usable template"
  | .shell (.draw _) => "an output cannot be drawn"

/-- How the program ends. -/
inductive Ending where
  /-- The user left. -/
  | left
  /-- The user asked how to call it. -/
  | helped
  /-- The command line makes no sense. -/
  | misused
  /-- The startup script does not exist. -/
  | noStartup (path : String)
  | failed (fault : ProgramFault)
deriving DecidableEq, Repr

/-- What the program has shown so far. -/
structure Trace where
  /-- The pieces that went out, one after the other. -/
  writes : List String := []
  /-- The notices that were grave enough to be shown. -/
  notices : List Notice := []
  /-- The level from which on notices are shown. -/
  level : Nat := LogLevel.default
  /-- Whether colours are kept in the output. -/
  colours : Bool := false

namespace Trace

/-- The piece as it goes out, if it can. -/
def piece? (trace : Trace) (text : String) : Option String :=
  Output.piece? trace.colours text

/-- Writes pieces one after the other, up to one that cannot go out. -/
def write (trace : Trace) : List String → Trace × Option ProgramFault
  | [] => (trace, none)
  | text :: rest =>
    match trace.piece? text with
    | some piece => write { trace with writes := trace.writes ++ [piece] } rest
    | none => (trace, some .titleAsked)

/-- Reports notices, of which those below the level are dropped. -/
def report (trace : Trace) (notices : List Notice) : Trace :=
  { trace with
    notices := trace.notices ++ notices.filter fun notice => trace.level ≤ notice.level.rank }

/-- The whole output. -/
def output (trace : Trace) : String :=
  String.join trace.writes

end Trace

/-- The program while it waits for a line. -/
structure Running where
  setting : ShellSetting
  shell : Shell

/-- Where the program stands. -/
inductive Stage where
  | running (state : Running)
  | ended (ending : Ending) (clipboard : Clipboard)

namespace Program

/-! ### Settings in use -/

/-- The settings under the options of the command line. -/
def underOptions (settings : Settings) (options : Options) : Settings where
  resumePath := if options.resume = "" then settings.resumePath else .ofText options.resume
  prompt := settings.prompt
  colour := if options.noColour then { datum := .bool false } else settings.colour
  logLevel :=
    if options.logLevel = "" then settings.logLevel else .ofText (Text.uppercase options.logLevel)

/-- The résumé that a path in bytes leads to. Such a path can lead to a folder, or nowhere, but not
to a file that would be read by the ending of its name. -/
def loadFromBytes (folder : Folder) (bytes : List UInt8) :
    Except ProgramFault (Option Resume × List Notice) :=
  let shown := Yaml.Datum.displayBytes bytes
  match (Text.decodeUtf8? bytes).bind fun cs => folder.find? (String.ofList cs) with
  | none => .ok (none, [.resumeNotFound shown])
  | some .folder => .ok (none, [.resumeUnreadable shown (.folder .isFolder)])
  | some _ => .error .pathNotText

/-- The résumé that a setting leads to. A number stands for an open file, of which the program knows
the two it writes to. -/
def loadResume (folder : Folder) (setting : Yaml.Value) :
    Except ProgramFault (Option Resume × List Notice) :=
  if !setting.isSubstantial then .ok (some Resume.sample, [])
  else
    match setting.datum with
    | .text path => (Resume.load folder (some path)).mapError .resume
    | .bytes bytes => loadFromBytes folder bytes
    | .bool _ => .error .pathIsOpenFile
    | .int n =>
      if n = 1 ∨ n = 2 then .error .pathIsOpenFile
      else if -0x80000000 ≤ n ∧ n < 0x80000000 then .ok (none, [.resumeNotFound (toString n)])
      else .error .pathTooLarge
    | _ => .error .pathNotText

/-- The template that a setting gives. -/
def template (setting : Yaml.Value) : Except ProgramFault String :=
  match setting.datum with
  | .text template => .ok template
  | _ => .error .promptNotText

/-! ### The startup script -/

/-- The lines of a text, without the newline at the end of each. A text that ends in a newline has
no further line. -/
def scriptLines (cs : List Char) : List String :=
  let pieces := (cs.splitOn '\n').map String.ofList
  if pieces.getLast? = some "" then pieces.dropLast else pieces

/-- A text up to the end of its last whole line. -/
def wholeLines (cs : List Char) : List Char :=
  (cs.reverse.dropWhile (· ≠ '\n')).reverse

/-- The state between the lines of the startup script. -/
structure ScriptState where
  session : Session
  clipboard : Clipboard
  glyphs : Nat
  trace : Trace

/-- Writes pieces after a line. -/
def ScriptState.write (s : ScriptState) (pieces : List String) :
    ScriptState × Option ProgramFault :=
  let (trace, fault) := s.trace.write pieces
  ({ s with trace := trace }, fault)

/-- Submits a line of the startup script and draws its output. -/
def submitScriptLine (setting : Setting) (width : Int) (s : ScriptState) (line : String) :
    ScriptState × Option ProgramFault :=
  let step := s.session.submitLine setting s.clipboard line
  let s := { s with
    session := step.session
    clipboard := step.clipboard
    trace := s.trace.report step.notices }
  match drawOutput width s.glyphs step.result with
  | .error fault => (s, some (.shell (.draw fault)))
  | .ok (screen, glyphs) => { s with glyphs := glyphs }.write (Shell.printed screen.toText)

/-- Runs a line of the startup script: echoes it after the prompt, and submits it. -/
def runScriptLine (setting : Setting) (width : Int) (prompt : Yaml.Value) (s : ScriptState)
    (line : String) : ScriptState × Option ProgramFault :=
  if !Session.isRunnable line then (s, none)
  else
    match (template prompt).bind fun template =>
        (Template.expand template "cwd" (Path.format s.session.fs.cwd)).mapError
          (ProgramFault.shell ∘ ShellFault.template) with
    | .error fault => (s, some fault)
    | .ok prompt =>
      match s.write (Shell.printed (prompt ++ line)) with
      | (s, none) => submitScriptLine setting width s line
      | failed => failed

/-- Runs the lines of the startup script up to the first fault. -/
def runScriptLines (setting : Setting) (width : Int) (prompt : Yaml.Value) (s : ScriptState) :
    List String → ScriptState × Option ProgramFault
  | [] => (s, none)
  | line :: rest =>
    match runScriptLine setting width prompt s line with
    | (s, none) => runScriptLines setting width prompt s rest
    | failed => failed

/-- Runs the startup script of a source. Where the source breaks off, the lines before have been
run by then. -/
def runScript (setting : Setting) (width : Int) (prompt : Yaml.Value) (source : Text.Source)
    (s : ScriptState) : ScriptState × Option ProgramFault :=
  if source.broken then
    match runScriptLines setting width prompt s (scriptLines (wholeLines source.text)) with
    | (s, none) => (s, some (.startup .notText))
    | failed => failed
  else runScriptLines setting width prompt s (scriptLines source.text)

/-- What is said about a startup script that does not exist. -/
def startupMissing (path : String) : String :=
  "Startup error: file not found: " ++ path

/-- Runs the startup script of a path. -/
def runStartup (setting : Setting) (width : Int) (prompt : Yaml.Value) (folder : Folder)
    (path : String) (s : ScriptState) : ScriptState × Option Ending :=
  match folder.find? path with
  | none =>
    (s, some (if (Output.plain? (startupMissing path)).isSome then .noStartup path
      else .failed .titleAsked))
  | some stored =>
    match Folder.sourceOf 0 stored with
    | .error fault => (s, some (.failed (.startup fault)))
    | .ok source =>
      let (s, fault) := runScript setting width prompt source s
      (s, fault.map .failed)

/-! ### Starting -/

/-- Opens the shell on what the startup script has left, and greets. -/
def openShell (setting : Setting) (width : Int) (prompt : Yaml.Value) (s : ScriptState) :
    Trace × Stage :=
  let opened : Except ProgramFault Running := do
    let setting : ShellSetting :=
      { setting with template := ← template prompt, width := width }
    let shell ← (Shell.ofSession setting s.session s.clipboard (some [])).mapError
      (ProgramFault.shell ∘ ShellFault.template)
    return ⟨setting, { shell with glyphs := s.glyphs }⟩
  match opened with
  | .error fault => (s.trace, .ended (.failed fault) s.clipboard)
  | .ok state =>
    match s.trace.write [Shell.intro ++ "\n"] with
    | (trace, none) => (trace, .running state)
    | (trace, some fault) => (trace, .ended (.failed fault) s.clipboard)

/-- Goes on from settings: the level of notices, the colours, the résumé, the startup script. -/
def startWith (call : Invocation) (options : Options) (settings : Settings) (trace : Trace) :
    Trace × Stage :=
  let failed (trace : Trace) (fault : ProgramFault) : Trace × Stage :=
    (trace, .ended (.failed fault) call.clipboard)
  match LogLevel.ofSetting settings.logLevel.datum with
  | .error fault => failed trace (.level fault)
  | .ok level =>
    let trace :=
      { trace with level := level, colours := settings.colour.isSubstantial && call.terminal }
    match loadResume call.folder settings.resumePath with
    | .error fault => failed trace fault
    | .ok (resume, notices) =>
      let setting : Setting :=
        { document := match resume with
            | some resume => .ofResume resume
            | none => .missing }
      let (session, more) := Session.start setting
      let trace := trace.report (notices ++ more)
      let s : ScriptState := { session, clipboard := call.clipboard, glyphs := 0, trace }
      if options.startup = "" then openShell setting call.width settings.prompt s
      else
        match runStartup setting call.width settings.prompt call.folder options.startup s with
        | (s, some ending) => (s.trace, .ended ending s.clipboard)
        | (s, none) => openShell setting call.width settings.prompt s

/-- The settings in use, with what there is to report. -/
def settingsOf (call : Invocation) (options : Options) :
    Except ProgramFault (Settings × List Notice) :=
  match options.config with
  | none => .error .configNotNamed
  | some config =>
    match Settings.load call.folder config call.environment with
    | .error fault => .error (.settings fault)
    | .ok (settings, notices) => .ok (underOptions settings options, notices)

/-- Starts the program. -/
def start (call : Invocation) : Trace × Stage :=
  match Options.read Settings.defaultPath call.args with
  | .help => ({}, .ended .helped call.clipboard)
  | .misuse => ({}, .ended .misused call.clipboard)
  | .options options =>
    match settingsOf call options with
    | .error fault => ({}, .ended (.failed fault) call.clipboard)
    | .ok (settings, notices) => startWith call options settings (Trace.report {} notices)

end Program

/-! ### Lines of the user -/

/-- Writes the prompt. -/
def Running.ask (state : Running) (trace : Trace) : Trace × Option ProgramFault :=
  trace.write [state.shell.prompt]

/-- Takes a line, or the end of the input. -/
def Running.answer (state : Running) (trace : Trace) (line : Option String) : Trace × Stage :=
  let run := state.shell.runLine state.setting (line.getD "EOF")
  let ended (trace : Trace) (ending : Ending) : Trace × Stage :=
    (trace, .ended ending run.shell.clipboard)
  match (trace.report run.notices).write run.writes, run.result with
  | (trace, some fault), _ => ended trace (.failed fault)
  | (trace, none), .error fault => ended trace (.failed (.shell fault))
  | (trace, none), .ok (some true) => ended trace .left
  | (trace, none), .ok _ => (trace, .running { state with shell := run.shell })

/-- Asks for a line and takes it. -/
def Running.feed (state : Running) (trace : Trace) (line : Option String) : Trace × Stage :=
  match state.ask trace with
  | (trace, none) => state.answer trace line
  | (trace, some fault) => (trace, .ended (.failed fault) state.shell.clipboard)

namespace Program

/-- Feeds lines to the program, and then the end of the input. -/
def feedAll (trace : Trace) : Stage → List String → Trace × Ending × Clipboard
  | .ended ending clipboard, _ => (trace, ending, clipboard)
  | .running state, [] =>
    match state.feed trace none with
    | (trace, .ended ending clipboard) => (trace, ending, clipboard)
    | (trace, .running state) => (trace, .left, state.shell.clipboard)
  | .running state, line :: rest =>
    let (trace, stage) := state.feed trace (some line)
    feedAll trace stage rest

/-- Runs the program on the whole of its input. -/
def run (call : Invocation) (input : String) : Trace × Ending × Clipboard :=
  let (trace, stage) := start call
  feedAll trace stage (scriptLines input.toList)

/-! ### Endings -/

/-- The code that the system is given at the end; none where the program returns of itself or
breaks off. -/
def exitCode? : Ending → Option Nat
  | .helped => some 0
  | .misused => some 2
  | .noStartup _ => some 2
  | .left | .failed _ => none

/-- What is written beside the output at the end. -/
def errorText : Ending → String
  | .noStartup path => (Output.plain? (startupMissing path)).getD "" ++ "\n"
  | _ => ""

end Program

end VitaeShell
