import VitaeShell.Yaml.Moment

/-!
# Tags

The tag of a value says what it is. A value without a written tag gets one: a collection by its
form, a quoted scalar that of a text, and a plain scalar by the way it is written (`Tag.ofPlain`).
-/

namespace VitaeShell.Yaml

/-- What a value is. -/
inductive Tag where
  | null
  | bool
  | int
  | float
  | binary
  | timestamp
  | orderedMap
  | pairs
  | set
  | text
  | sequence
  | mapping
  /-- The key whose value is merged into its mapping. -/
  | merge
  /-- The key that stands for the mapping itself. -/
  | value
  /-- A tag that means nothing here. -/
  | unknown
deriving DecidableEq, Repr

namespace Tag

/-- The start of the tags of the language itself. -/
def home : String := "tag:yaml.org,2002:"

/-- The names of the known tags. -/
def names : List (String × Tag) :=
  [("null", null), ("bool", bool), ("int", int), ("float", float), ("binary", binary),
    ("timestamp", timestamp), ("omap", orderedMap), ("pairs", pairs), ("set", set), ("str", text),
    ("seq", sequence), ("map", mapping), ("merge", merge), ("value", value)]

/-- The tag with a full name. -/
def ofName (name : String) : Tag :=
  ((names.map fun entry => (home ++ entry.1, entry.2)).lookup name).getD unknown

/-- Whether the values of a tag are collections. -/
def isCollection : Tag → Bool
  | orderedMap | pairs | set | sequence | mapping => true
  | _ => false

/-! ### Plain scalars -/

/-- The text after a sign. -/
def unsigned (cs : List Char) : List Char :=
  match cs with
  | '+' :: rest => rest
  | '-' :: rest => rest
  | _ => cs

/-- A digit, or an underscore between digits. -/
def isSpacedDigit (c : Char) : Bool :=
  isDigit c || c = '_'

/-- Digits and underscores, a digit first. -/
def isSpacedDigits (cs : List Char) : Bool :=
  match cs with
  | c :: rest => isDigit c && rest.all isSpacedDigit
  | [] => false

/-- A number below sixty, in one digit or two. -/
def isSixtieth (cs : List Char) : Bool :=
  match cs with
  | [c] => isDigit c
  | [c, d] => '0' ≤ c && c ≤ '5' && isDigit d
  | _ => false

/-- A whole number in base sixty, the colons between its parts. -/
def isSexagesimal (cs : List Char) : Bool :=
  match cs.splitOn ':' with
  | first :: next :: more => isSpacedDigits first && (next :: more).all isSixtieth
  | _ => false

/-- An optional exponent, whose sign has to be written. -/
def isExponent (cs : List Char) : Bool :=
  match cs with
  | [] => true
  | e :: sign :: digits =>
    (e = 'e' || e = 'E') && (sign = '+' || sign = '-') && !digits.isEmpty && digits.all isDigit
  | _ => false

/-- The way a floating-point number is written. -/
def isFloat (cs : List Char) : Bool :=
  let body := unsigned cs
  let whole := body.takeWhile (· ≠ '.')
  match body.drop whole.length with
  | [] => false
  | _ :: fraction =>
    let digits := fraction.takeWhile isSpacedDigit
    let exponent := fraction.drop digits.length
    (isSpacedDigits whole && isExponent exponent) ||
      (isSexagesimal whole && exponent.isEmpty) ||
      (cs.head? = some '.' && isSpacedDigits digits && isExponent exponent) ||
      ["inf", "Inf", "INF"].contains (String.ofList fraction) && whole.isEmpty ||
      cs.head? = some '.' && ["nan", "NaN", "NAN"].contains (String.ofList fraction)

/-- The way a whole number is written, in base two, eight, ten, sixteen or sixty. -/
def isInt (cs : List Char) : Bool :=
  match unsigned cs with
  | ['0'] => true
  | '0' :: 'b' :: digits => !digits.isEmpty && digits.all fun c => c = '0' || c = '1' || c = '_'
  | '0' :: 'x' :: digits =>
    !digits.isEmpty && digits.all fun c => c = '_' || (Numeral.digitOf? 16 c).isSome
  | '0' :: digits => digits.all fun c => ('0' ≤ c && c ≤ '7') || c = '_'
  | digits => digits.head? ≠ some '0' && (isSpacedDigits digits || isSexagesimal digits)

/-- The names of the truth values, each in three spellings. -/
def truthNames : List String :=
  ["yes", "Yes", "YES", "no", "No", "NO", "true", "True", "TRUE", "false", "False", "FALSE",
    "on", "On", "ON", "off", "Off", "OFF"]

/-- The ways to write that there is no value. -/
def nullNames : List String :=
  ["~", "null", "Null", "NULL", ""]

/-- The tag of a plain scalar. A line end after it does not count. The mark of a tag, of an anchor
or of an alias on its own means nothing. -/
def ofPlain (text : String) : Tag :=
  let cs := text.toList
  let cs := if cs.length ≠ 1 && cs.getLast? = some '\n' then cs.dropLast else cs
  let written := String.ofList cs
  if truthNames.contains written then bool
  else if isFloat cs then float
  else if isInt cs then int
  else if written = "<<" then merge
  else if nullNames.contains written then null
  else if Moment.isPlain cs then timestamp
  else if written = "=" then value
  else if ["!", "&", "*"].contains written then unknown
  else Tag.text

end Tag

end VitaeShell.Yaml
