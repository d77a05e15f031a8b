import VitaeShell.Text.PrintableTable

/-!
# Quoted text

How a string is written where its limits must show: in quotes, with the quote, the backslash and
whatever does not print written as an escape. Single quotes are used unless the text holds single
quotes and no double ones.
-/

namespace VitaeShell.Text

/-- A character that shows something of its own. -/
def isPrintable (c : Char) : Bool :=
  if c.toNat < 0x80 then 0x20 ≤ c.toNat && c.toNat < 0x7f
  else !unprintableRanges.any fun range => range.1 ≤ c.toNat && c.toNat ≤ range.2

/-- The last `width` hexadecimal digits of a number. -/
def hexDigits (width n : Nat) : List Char :=
  (List.range width).map fun i => Nat.digitChar (n / Nat.pow 16 (width - 1 - i) % 16)

/-- The escape that names a character by its code point, in the shortest of three widths. -/
def codeEscape (n : Nat) : List Char :=
  if n < 0x100 then '\\' :: 'x' :: hexDigits 2 n
  else if n < 0x10000 then '\\' :: 'u' :: hexDigits 4 n
  else '\\' :: 'U' :: hexDigits 8 n

/-- The quote that a text is written in. -/
def quoteFor (cs : List Char) : Char :=
  if cs.contains '\x27' && !cs.contains '\x22' then '\x22' else '\x27'

/-- A character as it is written between quotes. -/
def quotedChar (shown : Char → Bool) (quote c : Char) : List Char :=
  if c = quote ∨ c = '\\' then ['\\', c]
  else if c = '\n' then ['\\', 'n']
  else if c = '\r' then ['\\', 'r']
  else if c = '\t' then ['\\', 't']
  else if shown c then [c]
  else codeEscape c.toNat

/-- A text in quotes, with every character escaped that is not `shown`. -/
def quotedBy (shown : Char → Bool) (s : String) : String :=
  let cs := s.toList
  let quote := quoteFor cs
  String.ofList (quote :: cs.flatMap (quotedChar shown quote) ++ [quote])

/-- A text in quotes, as its own script. -/
def quoted (s : String) : String :=
  quotedBy isPrintable s

/-- A character in ASCII alone. -/
def asciiChar (c : Char) : List Char :=
  if c.toNat < 0x80 then [c] else codeEscape c.toNat

end VitaeShell.Text
