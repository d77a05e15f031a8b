import VitaeShell.Yaml.Fault

/-!
# Tokens of YAML

The marks of a YAML document, once its indentation has been turned into marks of its own: a block
collection opens with `blockSequenceStart` or `blockMappingStart` and closes with `blockEnd`.
-/

namespace VitaeShell.Yaml

/-- An instruction in front of a document. -/
inductive Directive where
  /-- The version of the language, of which the first number counts. -/
  | version (major : Nat)
  /-- A short handle for the start of tags. -/
  | tagHandle (handle expansion : String)
  /-- An instruction that means nothing here. -/
  | other
deriving DecidableEq, Repr

/-- A mark of a document. -/
inductive Token where
  | streamEnd
  | directive (content : Directive)
  | documentStart
  | documentEnd
  | blockSequenceStart
  | blockMappingStart
  | blockEnd
  | flowSequenceStart
  | flowSequenceEnd
  | flowMappingStart
  | flowMappingEnd
  | flowEntry
  | blockEntry
  | key
  | value
  | alias (name : String)
  | anchor (name : String)
  /-- A tag: a handle with what follows it, or a tag written out. -/
  | tag (handle : Option String) (suffix : String)
  /-- A scalar, and whether it stands without quotes on its own lines. -/
  | scalar (text : String) (plain : Bool)
  /-- Here the text stops being readable. -/
  | unreadable (fault : Fault)
deriving DecidableEq, Repr

end VitaeShell.Yaml
