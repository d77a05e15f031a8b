import VitaeShell.Folder
import VitaeShell.Json.Reader
import VitaeShell.Resume.Draft
import VitaeShell.Resume.Validation
import VitaeShell.Yaml.Datum

/-!
# Notices

What the program reports beside its output, as events: each has a level, a source and a message.
Causes that come from elsewhere are put into words by the reader of the notice (`Notice.message`).
-/

namespace VitaeShell

/-- How grave a notice is. -/
inductive Level where
  | debug
  | warning
  | error
deriving DecidableEq, Repr

namespace Level

/-- The rank of a level; a notice is shown if its rank is not below the one asked for. -/
def rank : Level → Nat
  | .debug => 10
  | .warning => 30
  | .error => 40

/-- The name of a level. -/
def name : Level → String
  | .debug => "DEBUG"
  | .warning => "WARNING"
  | .error => "ERROR"

end Level

/-- What went wrong before a notice was given. -/
inductive Cause where
  | folder (fault : Folder.Fault)
  | json (fault : Json.ReadFault)
  | yaml (fault : Yaml.Fault)
  | draft (fault : Draft.Fault)
  | schema (faults : List Resume.Fault)
deriving DecidableEq, Repr

/-- The words for a cause. -/
def Cause.message : Cause → String
  | .folder fault => fault.message
  | .json .malformed => "not a readable JSON text"
  | .json .numeralTooLong => "a number has too many digits"
  | .json .tooDeep => "it is nested too deep"
  | .yaml fault => fault.message
  | .draft fault => fault.message
  | .schema faults => toString faults.length ++ " of its values are missing or unfit"

/-- Something to report. -/
inductive Notice where
  /-- A line named no command. -/
  | unknownCommand (name : String)
  /-- A command failed instead of answering. -/
  | commandFailed (name : String)
  /-- There is no résumé to show. -/
  | noDocument
  /-- The document is no résumé. -/
  | invalidDocument (faults : List Resume.Fault)
  /-- The parts of the document cannot be filed. -/
  | unfitDocument (fault : Draft.Fault)
  /-- The résumé file does not exist. -/
  | resumeNotFound (path : String)
  /-- The résumé file cannot be read. -/
  | resumeUnreadable (path : String) (cause : Cause)
  /-- The résumé file holds no résumé. -/
  | resumeInvalid (path : String) (faults : List Resume.Fault)
  /-- The settings file cannot be read. -/
  | settingsUnreadable (path : String) (cause : Cause)
  /-- The settings file holds something else than named settings. -/
  | settingsNotMapping (path : String)
  /-- The settings file names a setting that does not exist. -/
  | unknownSetting (key : Yaml.Datum) (path : String)

namespace Notice

/-- How grave a notice is. -/
def level : Notice → Level
  | .unknownCommand _ => .debug
  | .settingsNotMapping _ | .unknownSetting _ _ => .warning
  | _ => .error

/-- The part of the program that gives a notice. -/
def source : Notice → String
  | .unknownCommand _ | .commandFailed _ => "resume_terminal.parser"
  | .noDocument | .invalidDocument _ | .unfitDocument _ => "resume_terminal.vfs"
  | .resumeNotFound _ | .resumeUnreadable _ _ | .resumeInvalid _ _ => "resume_terminal.loader"
  | .settingsUnreadable _ _ | .settingsNotMapping _ | .unknownSetting _ _ =>
    "resume_terminal.config"

/-- The words of a notice, its cause being put into words by `tell`. -/
def message (tell : Cause → String) : Notice → String
  | .unknownCommand name => "unknown command " ++ Text.quoted name
  | .commandFailed name => "command " ++ Text.quoted name ++ " failed"
  | .noDocument => "no resume document available; starting with an empty filesystem"
  | .invalidDocument faults => "invalid resume document: " ++ tell (.schema faults)
  | .unfitDocument fault => "could not build filesystem from resume: " ++ tell (.draft fault)
  | .resumeNotFound path => "resume file not found: " ++ path
  | .resumeUnreadable path cause => "could not parse resume file " ++ path ++ ": " ++ tell cause
  | .resumeInvalid path faults =>
    "resume file " ++ path ++ " failed validation: " ++ tell (.schema faults)
  | .settingsUnreadable path cause =>
    "could not read settings file " ++ path ++ ": " ++ tell cause
  | .settingsNotMapping path => "settings file " ++ path ++ " is not a mapping; using defaults"
  | .unknownSetting key path => "ignoring unknown setting " ++ key.displayKey ++ " in " ++ path

/-- The faults of a résumé that a notice is about. -/
def faults : Notice → Option (List Resume.Fault)
  | .invalidDocument faults => some faults
  | .resumeInvalid _ faults => some faults
  | _ => none

end Notice

end VitaeShell
