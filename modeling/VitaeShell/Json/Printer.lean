import VitaeShell.Json

/-!
# Writing JSON

The text of a value on one line: `", "` between items, `": "` after a name, and every character
outside printable ASCII escaped, those beyond the sixteen-bit range as a pair of surrogates.
-/

namespace VitaeShell.Json

/-- The escape of one sixteen-bit unit. -/
def unitEscape (n : Nat) : List Char :=
  '\\' :: 'u' :: Text.hexDigits 4 n

/-- A character as it is written between quotes. -/
def encodeChar (c : Char) : List Char :=
  if c = '\x22' then ['\\', '\x22']
  else if c = '\\' then ['\\', '\\']
  else if c = '\n' then ['\\', 'n']
  else if c = '\r' then ['\\', 'r']
  else if c = '\t' then ['\\', 't']
  else if c = '\x0c' then ['\\', 'f']
  else if c = '\x08' then ['\\', 'b']
  else if 0x20 ≤ c.toNat ∧ c.toNat < 0x7f then [c]
  else if c.toNat < 0x10000 then unitEscape c.toNat
  else
    let n := c.toNat - 0x10000
    unitEscape (0xd800 + n / 0x400) ++ unitEscape (0xdc00 + n % 0x400)

/-- A text between quotes. -/
def encodeText (s : String) : List Char :=
  '\x22' :: s.toList.flatMap encodeChar ++ ['\x22']

/-- A floating-point value; the three that decimals cannot write have names. -/
def encodeFloat : Binary64 → String
  | .nan => "NaN"
  | .infinite negative => if negative then "-Infinity" else "Infinity"
  | value => value.toText

mutual

/-- The characters of a value's text. -/
def encodeChars : Json → List Char
  | .null => "null".toList
  | .bool value => (if value then "true" else "false").toList
  | .int value => (toString value).toList
  | .float value => (encodeFloat value).toList
  | .text value => encodeText value
  | .list items => '[' :: encodeItems items ++ [']']
  | .object fields => '\x7b' :: encodeFields fields ++ ['\x7d']

/-- The items of a list, with separators. -/
def encodeItems : List Json → List Char
  | [] => []
  | [item] => encodeChars item
  | item :: rest => encodeChars item ++ ',' :: ' ' :: encodeItems rest

/-- The fields of an object, with separators. -/
def encodeFields : List (String × Json) → List Char
  | [] => []
  | [(name, value)] => encodeText name ++ ':' :: ' ' :: encodeChars value
  | (name, value) :: rest =>
    encodeText name ++ ':' :: ' ' :: encodeChars value ++ ',' :: ' ' :: encodeFields rest

end

/-- The text of a value. -/
def encode (value : Json) : String :=
  String.ofList value.encodeChars

end VitaeShell.Json
