import VitaeShell.Folder
import VitaeShell.Notice
import VitaeShell.Text.Casing
import VitaeShell.Text.Search
import VitaeShell.Yaml.Construction

/-!
# Settings

What the program is set to: the defaults, changed by a settings file, changed by the environment. A
value of the file is taken as it stands, whatever it is; only where it is used does it matter
whether it fits. A file that cannot be used is reported and changes nothing.
-/

namespace VitaeShell

/-- The settings of the program. -/
structure Settings where
  /-- The résumé file; nothing for the sample résumé. -/
  resumePath : Yaml.Value := { datum := .null }
  /-- The template of the prompt. -/
  prompt : Yaml.Value := .ofText "guest@resume:\x7bcwd\x7d$ "
  colour : Yaml.Value := { datum := .bool true }
  logLevel : Yaml.Value := .ofText "WARNING"

/-- The variables of the environment. -/
abbrev Environment := List (String × String)

namespace Settings

/-- The settings file that is read if no other is named. -/
def defaultPath : String := "resume_terminal.yaml"

/-- Changes a setting by its name in a file; other names are not known. -/
def set? (settings : Settings) (name : Yaml.Datum) (value : Yaml.Value) : Option Settings :=
  match name with
  | .text "resume_path" => some { settings with resumePath := value }
  | .text "prompt" => some { settings with prompt := value }
  | .text "colour" => some { settings with colour := value }
  | .text "log_level" => some { settings with logLevel := value }
  | _ => none

/-- The settings that the entries of a file leave behind, with the entries that are not known. -/
def ofEntries (path : String) (settings : Settings) :
    List (Yaml.Datum × Yaml.Value) → Settings × List Notice
  | [] => (settings, [])
  | (name, value) :: rest =>
    match settings.set? name value with
    | some settings => ofEntries path settings rest
    | none =>
      let (settings, notices) := ofEntries path settings rest
      (settings, .unknownSetting name path :: notices)

/-- The settings of a file's value. A value that counts as nothing sets nothing. -/
def ofValue (path : String) (value : Yaml.Value) : Settings × List Notice :=
  match value.collection? with
  | some (.mapping entries) =>
    ofEntries path {} (entries.map fun (name, datum) => (name, value.beside datum))
  | _ => ({}, if value.isSubstantial then [.settingsNotMapping path] else [])

/-- The settings of a file. Only a file that is no YAML document is survived. -/
def ofFile (folder : Folder) (path : String) : Except Yaml.Fault (Settings × List Notice) :=
  match folder.find? path with
  | none => .ok ({}, [])
  | some stored =>
    match Folder.sourceOf Yaml.windowSize stored with
    | .error fault => .ok ({}, [.settingsUnreadable path (.folder fault)])
    | .ok source =>
      match Yaml.read source with
      | .ok value => .ok (ofValue path value)
      | .error .malformed => .ok ({}, [.settingsUnreadable path (.yaml .malformed)])
      | .error fault => .error fault

/-! ### The environment -/

/-- The variable that names the résumé file. -/
def resumeVariable : String := "RESUME_TERMINAL_RESUME"

/-- The variable that names the level of notices. -/
def levelVariable : String := "RESUME_TERMINAL_LOG_LEVEL"

/-- The variable that turns colours off. -/
def noColourVariable : String := "RESUME_TERMINAL_NO_COLOUR"

/-- A variable that is set to something. -/
def given? (environment : Environment) (name : String) : Option String :=
  (environment.lookup name).filter (· ≠ "")

/-- Whether a text says yes. -/
def isYes (text : String) : Bool :=
  ["1", "true", "yes", "on"].contains (Text.lowercase (Text.strip text))

/-- The settings as the environment changes them. -/
def underEnvironment (settings : Settings) (environment : Environment) : Settings where
  resumePath := match given? environment resumeVariable with
    | some path => .ofText path
    | none => settings.resumePath
  prompt := settings.prompt
  colour := match given? environment noColourVariable with
    | some text => if isYes text then { datum := .bool false } else settings.colour
    | none => settings.colour
  logLevel := match given? environment levelVariable with
    | some level => .ofText (Text.uppercase level)
    | none => settings.logLevel

/-- The settings of a file under an environment, with what there is to report. -/
def load (folder : Folder) (path : String) (environment : Environment) :
    Except Yaml.Fault (Settings × List Notice) :=
  match ofFile folder path with
  | .ok (settings, notices) => .ok (settings.underEnvironment environment, notices)
  | .error fault => .error fault

end Settings

end VitaeShell
