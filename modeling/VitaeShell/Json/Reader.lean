import VitaeShell.Json
import VitaeShell.Table
import VitaeShell.Number.Numeral

/-!
# Reading JSON

`Json.decode` reads one value and nothing after it but blanks. Beside the grammar it takes `NaN`,
`Infinity` and `-Infinity`; of several settings of one field the last counts. Half a surrogate pair
on its own stands for no character and reads as `U+FFFD`.

Each list or object takes a call of its own out of a stack that holds a thousand. How many of them
can stand within one another depends on the calls that are in use where the reader is called
(`decodeWithin`); `maxDepth` holds where ten are.
-/

namespace VitaeShell.Json

/-- Why a text is refused. -/
inductive ReadFault where
  /-- The text is not JSON. -/
  | malformed
  /-- A whole number has more digits than are read. -/
  | numeralTooLong
  /-- More lists and objects stand within one another than are read. -/
  | tooDeep
deriving DecidableEq, Repr

/-- The rest of a text after the blanks that JSON allows between tokens. -/
def skipBlanks (cs : List Char) : List Char :=
  cs.dropWhile fun c => c = ' ' || c = '\t' || c = '\n' || c = '\r'

/-! ### Texts -/

/-- The sixteen-bit unit that four hexadecimal digits write. -/
def unit? (a b c d : Char) : Option Nat :=
  match Numeral.digitOf? 16 a, Numeral.digitOf? 16 b, Numeral.digitOf? 16 c,
      Numeral.digitOf? 16 d with
  | some a, some b, some c, some d => some (((a * 16 + b) * 16 + c) * 16 + d)
  | _, _, _, _ => none

/-- Whether a unit opens a surrogate pair. -/
def isHighSurrogate (n : Nat) : Bool := 0xd800 ≤ n && n < 0xdc00

/-- Whether a unit closes a surrogate pair. -/
def isLowSurrogate (n : Nat) : Bool := 0xdc00 ≤ n && n < 0xe000

/-- The character of a unit that stands alone. -/
def loneUnit (n : Nat) : Char :=
  if isHighSurrogate n || isLowSurrogate n then Char.ofNat 0xfffd else Char.ofNat n

/-- The character that a letter after a backslash stands for. -/
def escaped? (c : Char) : Option Char :=
  match c with
  | '\x22' => some '\x22'
  | '\\' => some '\\'
  | '/' => some '/'
  | 'b' => some '\x08'
  | 'f' => some '\x0c'
  | 'n' => some '\n'
  | 'r' => some '\r'
  | 't' => some '\t'
  | _ => none

/-- The characters up to the closing quote, and what follows it. -/
def readText : List Char → Except ReadFault (List Char × List Char)
  | [] => .error .malformed
  | '\x22' :: rest => .ok ([], rest)
  | '\\' :: 'u' :: a :: b :: c :: d :: '\\' :: 'u' :: e :: f :: g :: h :: rest =>
    match unit? a b c d, unit? e f g h with
    | some high, some low =>
      if isHighSurrogate high && isLowSurrogate low then
        match readText rest with
        | .ok (cs, rest) =>
          .ok (Char.ofNat (0x10000 + (high - 0xd800) * 0x400 + (low - 0xdc00)) :: cs, rest)
        | .error fault => .error fault
      else
        match readText ('\\' :: 'u' :: e :: f :: g :: h :: rest) with
        | .ok (cs, rest) => .ok (loneUnit high :: cs, rest)
        | .error fault => .error fault
    | _, _ => .error .malformed
  | '\\' :: 'u' :: a :: b :: c :: d :: rest =>
    match unit? a b c d with
    | some unit =>
      match readText rest with
      | .ok (cs, rest) => .ok (loneUnit unit :: cs, rest)
      | .error fault => .error fault
    | none => .error .malformed
  | '\\' :: c :: rest =>
    match escaped? c with
    | some character =>
      match readText rest with
      | .ok (cs, rest) => .ok (character :: cs, rest)
      | .error fault => .error fault
    | none => .error .malformed
  | c :: rest =>
    if c.toNat < 0x20 ∨ c = '\\' then .error .malformed
    else
      match readText rest with
      | .ok (cs, rest) => .ok (c :: cs, rest)
      | .error fault => .error fault

/-! ### Numbers -/

/-- An ASCII digit. -/
def isDigit (c : Char) : Bool := '0' ≤ c && c ≤ '9'

/-- The digits of the exponent that a text starts with, with its letter and sign. -/
def exponentPart (cs : List Char) : List Char :=
  match cs with
  | e :: rest =>
    if e = 'e' ∨ e = 'E' then
      let sign := match rest with
        | '+' :: _ => ['+']
        | '-' :: _ => ['-']
        | _ => []
      let digits := (rest.drop sign.length).takeWhile isDigit
      if digits.isEmpty then [] else e :: sign ++ digits
    else []
  | [] => []

/-- The point and the digits that a text starts with, if there is a digit. -/
def fractionPart (cs : List Char) : List Char :=
  match cs with
  | '.' :: rest =>
    let digits := rest.takeWhile isDigit
    if digits.isEmpty then [] else '.' :: digits
  | _ => []

/-- The digits before point and exponent: a zero, or digits that start with another one. -/
def wholePart (cs : List Char) : List Char :=
  match cs with
  | '0' :: _ => ['0']
  | _ => cs.takeWhile isDigit

/-- The number that a text starts with, and what follows it. -/
def readNumber (cs : List Char) : Except ReadFault (Json × List Char) :=
  let negative := cs.head? = some '-'
  let body := if negative then cs.drop 1 else cs
  let whole := wholePart body
  let afterWhole := body.drop whole.length
  let fraction := fractionPart afterWhole
  let exponent := exponentPart (afterWhole.drop fraction.length)
  let rest := (afterWhole.drop fraction.length).drop exponent.length
  if whole.isEmpty then .error .malformed
  else if fraction.isEmpty && exponent.isEmpty then
    if Numeral.maxDigits < whole.length then .error .numeralTooLong
    else
      let magnitude : Int := Numeral.valueOf 10 (whole.map fun c => c.toNat - '0'.toNat)
      .ok (.int (if negative then -magnitude else magnitude), rest)
  else
    match Numeral.decimal? (whole ++ fraction ++ exponent) with
    | some (digits, e) => .ok (.float (.ofDecimal negative digits e), rest)
    | none => .error .malformed

/-! ### Values -/

/-- How many lists and objects can stand within one another, where ten calls out of a thousand are
in use. With more calls in use it is that many less. -/
def maxDepth : Nat := 990

mutual

/-- The value that a text starts with, and what follows it. As many lists and objects as `depth` can
stand within one another. -/
def readValue : Nat → Nat → List Char → Except ReadFault (Json × List Char)
  | 0, _, _ => .error .malformed
  | fuel + 1, depth, cs =>
    match cs with
    | '\x22' :: rest =>
      match readText rest with
      | .ok (value, rest) => .ok (.text (String.ofList value), rest)
      | .error fault => .error fault
    | '[' :: rest =>
      match depth, skipBlanks rest with
      | 0, _ => .error .tooDeep
      | _, ']' :: rest => .ok (.list [], rest)
      | depth + 1, rest =>
        match readItems fuel depth rest with
        | .ok (items, rest) => .ok (.list items, rest)
        | .error fault => .error fault
    | '\x7b' :: rest =>
      match depth, skipBlanks rest with
      | 0, _ => .error .tooDeep
      | _, '\x7d' :: rest => .ok (.object [], rest)
      | depth + 1, rest =>
        match readFields fuel depth rest with
        | .ok (fields, rest) => .ok (.object (Table.ofList fields), rest)
        | .error fault => .error fault
    | 'n' :: 'u' :: 'l' :: 'l' :: rest => .ok (.null, rest)
    | 't' :: 'r' :: 'u' :: 'e' :: rest => .ok (.bool true, rest)
    | 'f' :: 'a' :: 'l' :: 's' :: 'e' :: rest => .ok (.bool false, rest)
    | 'N' :: 'a' :: 'N' :: rest => .ok (.float .nan, rest)
    | 'I' :: 'n' :: 'f' :: 'i' :: 'n' :: 'i' :: 't' :: 'y' :: rest =>
      .ok (.float (.infinite false), rest)
    | '-' :: 'I' :: 'n' :: 'f' :: 'i' :: 'n' :: 'i' :: 't' :: 'y' :: rest =>
      .ok (.float (.infinite true), rest)
    | cs => readNumber cs

/-- The items of a list from the first on, and what follows the closing bracket. -/
def readItems : Nat → Nat → List Char → Except ReadFault (List Json × List Char)
  | 0, _, _ => .error .malformed
  | fuel + 1, depth, cs =>
    match readValue fuel depth cs with
    | .error fault => .error fault
    | .ok (item, rest) =>
      match skipBlanks rest with
      | ',' :: rest =>
        match readItems fuel depth (skipBlanks rest) with
        | .ok (items, rest) => .ok (item :: items, rest)
        | .error fault => .error fault
      | ']' :: rest => .ok ([item], rest)
      | _ => .error .malformed

/-- The fields of an object from the first on, and what follows the closing brace. -/
def readFields : Nat → Nat → List Char → Except ReadFault (List (String × Json) × List Char)
  | 0, _, _ => .error .malformed
  | fuel + 1, depth, cs =>
    match cs with
    | '\x22' :: rest =>
      match readText rest with
      | .error fault => .error fault
      | .ok (name, rest) =>
        match skipBlanks rest with
        | ':' :: rest =>
          match readValue fuel depth (skipBlanks rest) with
          | .error fault => .error fault
          | .ok (value, rest) =>
            match skipBlanks rest with
            | ',' :: rest =>
              match readFields fuel depth (skipBlanks rest) with
              | .ok (fields, rest) => .ok ((String.ofList name, value) :: fields, rest)
              | .error fault => .error fault
            | '\x7d' :: rest => .ok ([(String.ofList name, value)], rest)
            | _ => .error .malformed
        | _ => .error .malformed
    | _ => .error .malformed

end

/-- The value that a text is, where as many lists and objects as `depth` can stand within one
another. Twice the length of the text bounds the nesting of the calls. -/
def decodeWithin (depth : Nat) (cs : List Char) : Except ReadFault Json :=
  match readValue (2 * cs.length + 2) depth (skipBlanks cs) with
  | .error fault => .error fault
  | .ok (value, rest) => if (skipBlanks rest).isEmpty then .ok value else .error .malformed

/-- The value that a text is. -/
def decodeChars (cs : List Char) : Except ReadFault Json :=
  decodeWithin maxDepth cs

/-- The value that a string is. -/
def decode (s : String) : Except ReadFault Json :=
  decodeChars s.toList

end VitaeShell.Json
