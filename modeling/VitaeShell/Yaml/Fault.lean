/-!
# Faults of YAML documents

The reasons for which a YAML document has no value. Most documents without a value are `malformed`;
the other reasons come from bytes that are no text, and from single values that carry an explicit
tag they do not fit.
-/

namespace VitaeShell.Yaml

/-- Why a document has no value. -/
inductive Fault where
  /-- The text is not one YAML document of the known tags. -/
  | malformed
  /-- The bytes of the document spell no text. -/
  | notText
  /-- A number, a date or a character is out of bounds or misspelt. -/
  | badValue
  /-- A number or a character code is too large to handle. -/
  | valueTooLarge
  /-- A truth value has none of the known names. -/
  | unknownTruthValue
  /-- A number has no characters at all. -/
  | emptyNumeral
  /-- A point in time is not written as one. -/
  | unreadableTimestamp
  /-- A point in time is a mapping. -/
  | timestampOfMapping
  /-- The document is nested too deep, or without an end. -/
  | tooDeep
deriving DecidableEq, Repr

/-- The words for a fault. -/
def Fault.message : Fault → String
  | .malformed => "not a readable YAML document"
  | .notText => "not UTF-8 text"
  | .badValue => "a value does not fit its tag"
  | .valueTooLarge => "a value is too large"
  | .unknownTruthValue => "unknown truth value"
  | .emptyNumeral => "a number is empty"
  | .unreadableTimestamp => "a timestamp is not readable"
  | .timestampOfMapping => "a timestamp is a mapping"
  | .tooDeep => "the document is nested too deep"

end VitaeShell.Yaml
