import VitaeShell.Yaml.Fault

/-!
# Places in a YAML text

A cursor stands before a character of a text and knows its line and column, on which the meaning of
a YAML document depends. Newlines have been normalized: no carriage return is left in the text.

A text may be readable only up to some place. Whoever finds a fault there has run into the end of
what can be read, and not into a fault of the text (`Cursor.fail`).
-/

namespace VitaeShell.Yaml

/-! ### Classes of characters -/

/-- What is read beyond the end of a text. It stands in no text that has a value. -/
def endMark : Char := '\x00'

/-- A character that ends a line. -/
def isBreak (c : Char) : Bool :=
  c = '\n' || c.toNat = 0x85 || c.toNat = 0x2028 || c.toNat = 0x2029

/-- The end of a line, or of the text. -/
def isLineEnd (c : Char) : Bool :=
  c = endMark || isBreak c

/-- What ends a mark: a space, a tab, the end of a line. -/
def isGap (c : Char) : Bool :=
  c = ' ' || c = '\t' || isLineEnd c

/-- A character that may stand in a YAML text. -/
def isAllowed (c : Char) : Bool :=
  let n := c.toNat
  n = 0x09 || n = 0x0a || n = 0x0d || (0x20 ≤ n && n ≤ 0x7e) || n = 0x85 ||
    (0xa0 ≤ n && n ≤ 0xd7ff) || (0xe000 ≤ n && n ≤ 0xfffd) || 0x10000 ≤ n

/-- The mark of byte order, which takes no column. -/
def byteOrderMark : Char := Char.ofNat 0xfeff

/-- A character of the names of anchors, handles and directives. -/
def isNameChar (c : Char) : Bool :=
  ('0' ≤ c && c ≤ '9') || ('A' ≤ c && c ≤ 'Z') || ('a' ≤ c && c ≤ 'z') || c = '-' || c = '_'

/-- An ASCII digit. -/
def isDigit (c : Char) : Bool :=
  '0' ≤ c && c ≤ '9'

/-! ### Cursors -/

/-- A place in a text: what follows, the characters and lines before, and the column. -/
structure Cursor where
  rest : List Char
  index : Nat := 0
  line : Nat := 0
  column : Nat := 0
  /-- Why the text cannot be read beyond `rest`; none if it ends there. -/
  barrier : Option Fault := none
deriving Repr

namespace Cursor

/-- The character `n` places on. -/
def peek (c : Cursor) (n : Nat) : Char :=
  (c.rest[n]?).getD endMark

/-- The character at the cursor. -/
def here (c : Cursor) : Char :=
  c.rest.head?.getD endMark

/-- What keeps the character `n` places on from being read. -/
def barred? (c : Cursor) (n : Nat) : Option Fault :=
  if (c.rest.drop n).isEmpty then c.barrier else none

/-- Goes on from the cursor only if the character `n` places on can be read. -/
def readable (c : Cursor) (n : Nat) : Except Fault Cursor :=
  match c.barred? n with
  | some fault => .error fault
  | none => .ok c

/-- Reports a fault at the cursor. Where the text cannot be read on, that is the fault. -/
def fail {α : Type} (c : Cursor) (fault : Fault) : Except Fault α :=
  .error ((c.barred? 0).getD fault)

/-- The place after one character. -/
def step (c : Cursor) : Cursor :=
  match c.rest with
  | [] => c
  | ch :: rest =>
    let next := { c with rest := rest, index := c.index + 1 }
    if isBreak ch then { next with line := c.line + 1, column := 0 }
    else if ch = byteOrderMark then next
    else { next with column := c.column + 1 }

/-- The place after `n` characters. -/
def advance (c : Cursor) : Nat → Cursor
  | 0 => c
  | n + 1 => c.step.advance n

/-- The characters of a class from the cursor on. -/
def run (c : Cursor) (p : Char → Bool) : List Char :=
  c.rest.takeWhile p

/-- The place after the characters of a class. -/
def skip (c : Cursor) (p : Char → Bool) : Cursor :=
  c.advance (c.run p).length

/-- The place after the spaces. -/
def skipSpaces (c : Cursor) : Cursor :=
  c.skip (· = ' ')

/-- The place at the end of the line, if a comment stands at the cursor. -/
def skipComment (c : Cursor) : Cursor :=
  if c.here = '#' then c.skip (!isLineEnd ·) else c

/-- The end of the line at the cursor, as it counts in a scalar, and the place after it. -/
def lineBreak (c : Cursor) : List Char × Cursor :=
  if !isBreak c.here then ([], c)
  else if c.here = '\n' ∨ c.here.toNat = 0x85 then (['\n'], c.step)
  else ([c.here], c.step)

/-- Whether a mark stands three times at the cursor. -/
def hasMarks (c : Cursor) (mark : Char) : Bool :=
  c.peek 0 = mark && c.peek 1 = mark && c.peek 2 = mark

/-- Whether three marks that divide documents stand at the cursor. -/
def atMarks (c : Cursor) (mark : Char) : Bool :=
  c.hasMarks mark && isGap (c.peek 3)

/-- Whether the start or the end of a document stands at the cursor. -/
def atDivision (c : Cursor) : Bool :=
  c.atMarks '-' || c.atMarks '.'

/-- The number of characters beside the one at the cursor that it takes to know whether documents
divide here. What comes after three marks is read only if the marks are there. -/
def divisionReach (c : Cursor) : Nat :=
  if c.hasMarks '-' || c.hasMarks '.' then 3 else 2

/-- Whether documents divide at the cursor, as far as the text can be read. -/
def divides (c : Cursor) : Except Fault Bool := do
  let c ← c.readable c.divisionReach
  return c.atDivision

end Cursor

end VitaeShell.Yaml
