import VitaeShell.Clipboard
import VitaeShell.FileSystem
import VitaeShell.Line
import VitaeShell.Notice

/-!
# Commands

A command takes arguments and the file system to an output string and a file system, and may use the
clipboard; instead of answering it may fail with a message. A registry holds commands by name, in
order. `Registry.run` runs a command line and never fails: what goes wrong becomes an output.
-/

namespace VitaeShell

/-- What a command answers. -/
structure Answer where
  output : String
  fs : FileSystem

/-- What a command does with its arguments, the file system and the clipboard. -/
abbrev Action := List String → FileSystem → Clipboard → Except String Answer × Clipboard

/-- The sort of value that a parameter takes. -/
inductive ParameterKind where
  | text
  | number
  | flag
deriving DecidableEq, Repr

/-- The name of a sort of value. -/
def ParameterKind.name : ParameterKind → String
  | .text => "string"
  | .number => "number"
  | .flag => "boolean"

/-- A parameter of a command, as it is described to the user. -/
structure Parameter where
  name : String
  kind : ParameterKind
  required : Bool
  description : String
deriving DecidableEq, Repr

/-- What the user is told about a command. -/
structure Synopsis where
  description : String
  usage : String
  parameters : List Parameter := []
deriving DecidableEq, Repr

/-- Whether a command is left out where commands are listed. -/
def Synopsis.hidden (synopsis : Synopsis) : Bool :=
  synopsis.description = ""

/-- A command. -/
structure Command where
  synopsis : Synopsis
  action : Action

namespace Action

/-- Answers a text whatever it is asked, and leaves everything as it is. -/
def saying (text : String) : Action :=
  fun _ fs clipboard => (.ok ⟨text, fs⟩, clipboard)

/-- Fails whatever it is asked. -/
def failing (message : String) : Action :=
  fun _ _ clipboard => (.error message, clipboard)

end Action

/-- The commands by name, in order. -/
abbrev Registry := List (String × Command)

namespace Registry

/-- Whether a command line names a command. -/
def knows (registry : Registry) (line : CommandLine) : Bool :=
  (registry.lookup line.command).isSome

/-- The names of the commands that are not hidden. -/
def visibleNames (registry : Registry) : List String :=
  (registry.filter fun entry => !entry.2.synopsis.hidden).map (·.1)

/-- What is left after a command line was run. -/
structure Outcome where
  answer : Answer
  clipboard : Clipboard
  notices : List Notice

/-- The answer to a name that is no command's. -/
def unknownMessage (name : String) : String :=
  "Error: '" ++ name ++ "' is not a valid command. Type 'help' for a list of commands."

/-- The answer for a command that failed. -/
def failureMessage (name message : String) : String :=
  "Error: '" ++ name ++ "' failed: " ++ message

/-- Runs a command line. An unknown or failing command leaves the file system as it is. -/
def run (registry : Registry) (line : CommandLine) (fs : FileSystem) (clipboard : Clipboard) :
    Outcome :=
  match registry.lookup line.command with
  | none => ⟨⟨unknownMessage line.command, fs⟩, clipboard, [.unknownCommand line.command]⟩
  | some command =>
    match command.action line.args fs clipboard with
    | (.ok answer, clipboard) => ⟨answer, clipboard, []⟩
    | (.error message, clipboard) =>
      ⟨⟨failureMessage line.command message, fs⟩, clipboard, [.commandFailed line.command]⟩

end Registry

end VitaeShell
