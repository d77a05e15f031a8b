import VitaeShell.Program

/-!
# The command line

The program on a real machine. What happens is decided by `Program.start` and `Running.feed`; here
the files that they may ask for are read, lines are taken from the input one by one, and what each
step adds to the trace goes out before the next line is awaited.
-/

namespace VitaeShell.CommandLine

/-! ### What the machine provides -/

/-- What stands at a path on the disk. What is there but cannot be read counts as a folder. -/
def onDisk? (path : String) : IO (Option Stored) := do
  try
    return some (.bytes (← IO.FS.readBinFile path).toList)
  catch
    | .noFileOrDirectory .. => return none
    | _ => return some .folder

/-- A call that knows what stands at a path. -/
def withFile (call : Invocation) (path : String) : IO Invocation := do
  match ← onDisk? path with
  | some stored => return { call with folder := call.folder.reach path stored }
  | none => return call

/-- A call that knows the files that it may ask for: the settings and the startup script that it
names, and then the résumé that it and its settings name. -/
def withFiles (call : Invocation) : IO Invocation := do
  match Options.read Settings.defaultPath call.args with
  | .options options =>
    let call ← withFile (← withFile call (options.config.getD "")) options.startup
    match Program.settingsOf call options with
    | .ok (settings, _) =>
      match settings.resumePath.datum with
      | .text path => withFile call path
      | .bytes bytes =>
        match Text.decodeUtf8? bytes with
        | some path => withFile call (String.ofList path)
        | none => return call
      | _ => return call
    | .error _ => return call
  | _ => return call

/-- The variables of the environment that the program asks for. -/
def environment : IO Environment := do
  let names := [Settings.resumeVariable, Settings.levelVariable, Settings.noColourVariable,
    Invocation.widthVariable]
  let found ← names.mapM fun name => do
    return (← IO.getEnv name).map fun value => (name, value)
  return found.filterMap id

/-! ### What the machine is given -/

/-- Sends out what is new in a trace. -/
def send (trace : Trace) : IO Unit := do
  let output ← IO.getStdout
  for text in trace.writes do
    output.putStr text
  output.flush
  for notice in trace.notices do
    IO.eprintln (String.intercalate " " [notice.level.name, notice.source ++ ":",
      notice.message Cause.message])

/-- The code for the system at the end, after the last words. -/
def finish (ending : Ending) : IO UInt32 := do
  match ending with
  | .helped => IO.print Options.usage
  | .misused => IO.eprint Options.usage
  | .failed fault => IO.eprintln fault.message
  | _ => IO.eprint (Program.errorText ending)
  match Program.exitCode? ending, ending with
  | some code, _ => return code.toUInt32
  | none, .failed _ => return 1
  | none, _ => return 0

/-- The next line of the input without the newline at its end; none at the end of the input. -/
def nextLine? : IO (Option String) := do
  let line ← (← IO.getStdin).getLine
  return if line = "" then none
    else if Text.endsWith line "\n" then some (String.ofList line.toList.dropLast)
    else some line

/-- Goes on from a stage to the end. -/
partial def goOn (trace : Trace) : Stage → IO UInt32
  | .ended ending _ => do
    send trace
    finish ending
  | .running state => do
    let (trace, fault) := state.ask trace
    match fault with
    | some fault => goOn trace (.ended (.failed fault) state.shell.clipboard)
    | none =>
      send trace
      let (trace, stage) := state.answer { trace with writes := [], notices := [] } (← nextLine?)
      goOn trace stage

end VitaeShell.CommandLine

/-- Runs the program. -/
def main (args : List String) : IO UInt32 := do
  let call ← VitaeShell.CommandLine.withFiles {
    args
    environment := ← VitaeShell.CommandLine.environment
    terminal := ← (← IO.getStdout).isTty
    clipboard := .unwilling "no clipboard is available" }
  let (trace, stage) := VitaeShell.Program.start call
  VitaeShell.CommandLine.goOn trace stage
