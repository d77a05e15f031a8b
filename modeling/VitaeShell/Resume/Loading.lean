import VitaeShell.Folder
import VitaeShell.Notice
import VitaeShell.Resume.Sample
import VitaeShell.Text.Casing
import VitaeShell.Text.Search
import VitaeShell.Yaml.Construction

/-!
# Loading a résumé

Reads the résumé of a file, as YAML or as JSON by the ending of its name. A file that is missing,
unreadable or no résumé gives none and one notice. Two things are not survived: a YAML value that
does not fit its explicit tag and is neither malformed nor merely out of bounds, and a file that is
nested too deep.
-/

namespace VitaeShell.Resume

/-- Whether a path names a YAML file, in any case. -/
def isYamlPath (path : String) : Bool :=
  let lowered := Text.lowercase path
  Text.endsWith lowered ".yaml" || Text.endsWith lowered ".yml"

/-- Whether a file with a fault is survived: one that is no document, or whose fault is that of a
single value out of bounds. -/
def isSurvived : Cause → Bool
  | .yaml .malformed | .yaml .notText | .yaml .badValue => true
  | .yaml _ | .json .tooDeep => false
  | _ => true

/-- The résumé of a checked value. -/
def ofChecked (path : String) : Checked Resume → Option Resume × List Notice
  | .ok resume => (some resume, [])
  | .error faults => (none, [.resumeInvalid path faults])

/-- The checked value of a JSON source. -/
def ofJsonSource (source : Text.Source) : Except Cause (Checked Resume) :=
  match source.whole? with
  | none => .error (.folder .notText)
  | some cs => ((Json.decodeChars cs).map validate).mapError .json

/-- The checked value of a YAML source. -/
def ofYamlSource (source : Text.Source) : Except Cause (Checked Resume) :=
  ((Yaml.read source).map validate).mapError .yaml

/-- The checked value of a source, which is read as the ending of its path says. -/
def ofSource (path : String) (source : Text.Source) : Except Cause (Checked Resume) :=
  if isYamlPath path then ofYamlSource source else ofJsonSource source

/-- The checked value that stands at a path. For a JSON text, which is read only whole, it does not
matter how many characters are asked for at a time. -/
def ofStored (path : String) (stored : Stored) : Except Cause (Checked Resume) :=
  match Folder.sourceOf Yaml.windowSize stored with
  | .error fault => .error (.folder fault)
  | .ok source => ofSource path source

/-- The résumé of a file. -/
def loadFile (folder : Folder) (path : String) : Except Cause (Option Resume × List Notice) :=
  match folder.find? path with
  | none => .ok (none, [.resumeNotFound path])
  | some stored =>
    match ofStored path stored with
    | .ok checked => .ok (ofChecked path checked)
    | .error cause =>
      if isSurvived cause then .ok (none, [.resumeUnreadable path cause]) else .error cause

/-- The résumé of a file, or the sample if none is named. -/
def load (folder : Folder) (path : Option String) :
    Except Cause (Option Resume × List Notice) :=
  match path with
  | none => .ok (some sample, [])
  | some path => if path = "" then .ok (some sample, []) else loadFile folder path

end VitaeShell.Resume
