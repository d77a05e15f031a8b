import VitaeShell.Yaml.Scalar
import VitaeShell.Yaml.Token
import VitaeShell.Yaml.Window

/-!
# From text to tokens

`tokens` reads the tokens of a YAML source, the last of which is the end of the stream or the place
where the text stops being readable.

A key of a mapping is only known as such at the colon after it. Until then it is a pending key: at
the colon, the marks that it calls for are put in front of it. A key has to end on its line, within
`maxKeyLength` characters.
-/

namespace VitaeShell.Yaml

/-! ### Names, tags and directives -/

/-- The number of characters in which the colon after a key has to come. -/
def maxKeyLength : Nat := 1024

/-- A character of the address that a tag is. -/
def isAddressChar (c : Char) : Bool :=
  isNameChar c || ";/?:@&=+$,_.!~*'()[]%".toList.contains c

/-- The bytes that percent signs write, and the place after them. -/
def percentBytes : Nat → Cursor → Except Fault (List UInt8 × Cursor)
  | 0, _ => .error .malformed
  | fuel + 1, c =>
    if c.here ≠ '%' then .ok ([], c)
    else
      match Numeral.digitOf? 16 (c.peek 1), Numeral.digitOf? 16 (c.peek 2) with
      | some high, some low => do
        let (more, c) ← percentBytes fuel (c.advance 3)
        return (UInt8.ofNat (high * 16 + low) :: more, c)
      | none, _ => c.step.fail .malformed
      | _, none => (c.advance 2).fail .malformed

/-- The characters of an address at the cursor. -/
def addressFrom : Nat → Cursor → Except Fault (List Char × Cursor)
  | 0, _ => .error .malformed
  | fuel + 1, c =>
    if c.here = '%' then do
      let (bytes, c) ← percentBytes (c.rest.length + 1) c
      match Text.decodeUtf8? bytes with
      | some piece =>
        let (more, c) ← addressFrom fuel c
        return (piece ++ more, c)
      | none => c.fail .malformed
    else
      let run := c.run fun ch => isAddressChar ch && ch ≠ '%'
      if run.isEmpty then .ok ([], c)
      else do
        let (more, c) ← addressFrom fuel (c.advance run.length)
        return (run ++ more, c)

/-- The address at the cursor, which must not be empty. -/
def address (c : Cursor) : Except Fault (String × Cursor) :=
  if !isAddressChar c.here then c.fail .malformed
  else do
    let (cs, c) ← addressFrom (c.rest.length + 1) c
    return (String.ofList cs, c)

/-- The handle at the cursor: `!`, or a name between two of them. -/
def tagHandle (c : Cursor) : Except Fault (String × Cursor) :=
  if c.here ≠ '!' then c.fail .malformed
  else if c.peek 1 = ' ' then .ok ("!", c.step)
  else
    let name := c.step.run isNameChar
    let c := c.step.advance name.length
    if c.here = '!' then .ok (String.ofList ('!' :: name ++ ['!']), c.step) else c.fail .malformed

/-- The tag at the cursor. Whether it starts with a handle is known only at the next `!`, or where
neither comes before a space or the end of the line. -/
def tagToken (c : Cursor) : Except Fault (Token × Cursor) := do
  let (token, c) ←
    if c.peek 1 = '<' then do
      let (suffix, c) ← address (c.advance 2)
      if c.here = '>' then pure (Token.tag none suffix, c.step) else c.fail .malformed
    else if isGap (c.peek 1) then pure (Token.tag none "!", c.step)
    else do
      let ahead := c.step.run fun ch => !(ch = ' ' || isLineEnd ch || ch = '!')
      let c ← c.readable (ahead.length + 1)
      if c.peek (ahead.length + 1) = '!' then do
        let (handle, c) ← tagHandle c
        let (suffix, c) ← address c
        pure (Token.tag (some handle) suffix, c)
      else do
        let (suffix, c) ← address c.step
        pure (Token.tag (some "!") suffix, c)
  if c.here = ' ' || isLineEnd c.here then return (token, c) else c.fail .malformed

/-- The name after the mark of an anchor or alias. -/
def anchorName (c : Cursor) : Except Fault (String × Cursor) :=
  let name := c.step.run isNameChar
  let c := c.step.advance name.length
  let ends := isGap c.here || "?:,]\x7d%@`".toList.contains c.here
  if name.isEmpty || !ends then c.fail .malformed else .ok (String.ofList name, c)

/-- The whole number at the cursor. -/
def versionNumber (c : Cursor) : Except Fault (Nat × Cursor) :=
  let digits := c.run isDigit
  let c := c.advance digits.length
  if digits.isEmpty then c.fail .malformed
  else if Numeral.maxDigits < digits.length then c.fail .badValue
  else .ok (Numeral.valueOf 10 (digits.map fun d => d.toNat - '0'.toNat), c)

/-- Goes on if a space or the end of the line stands at the cursor. -/
def atSpace (c : Cursor) : Except Fault Unit :=
  if c.here = ' ' || isLineEnd c.here then .ok () else c.fail .malformed

/-- The directive at the cursor, with its line. -/
def directiveToken (c : Cursor) : Except Fault (Token × Cursor) := do
  let name := c.step.run isNameChar
  let c := c.step.advance name.length
  if name.isEmpty then c.fail .malformed
  else
    atSpace c
    let (content, c) ←
      if name = "YAML".toList then do
        let (major, c) ← versionNumber c.skipSpaces
        if c.here ≠ '.' then c.fail .malformed
        else
          let (_, c) ← versionNumber c.step
          atSpace c
          pure (Directive.version major, c)
      else if name = "TAG".toList then do
        let (handle, c) ← tagHandle c.skipSpaces
        if c.here ≠ ' ' then c.fail .malformed
        else
          let (expansion, c) ← address c.skipSpaces
          atSpace c
          pure (Directive.tagHandle handle expansion, c)
      else pure (Directive.other, c.skip (!isLineEnd ·))
    return (.directive content, ← restOfLine c)

/-! ### The state between tokens -/

/-- A mark that may turn out to be a key. -/
structure PendingKey where
  /-- The number of tokens before it. -/
  number : Nat
  /-- Whether nothing but a key can stand here. -/
  required : Bool
  place : Cursor

/-- What has been read, and what it takes to read on. -/
structure Lexer where
  cursor : Cursor
  /-- The tokens so far, the last one first. -/
  found : List Token := []
  /-- The number of open brackets. -/
  flow : Nat := 0
  /-- The column of the innermost block, and those of the blocks around it. -/
  indent : Int := -1
  outer : List Int := []
  /-- Whether a key may start at the cursor. -/
  keyAllowed : Bool := true
  /-- The pending keys, by the number of brackets around each. -/
  pending : List (Nat × PendingKey) := []

namespace Lexer

/-- Adds a token and goes on behind it. -/
def push (l : Lexer) (token : Token) (cursor : Cursor) : Lexer :=
  { l with found := token :: l.found, cursor := cursor }

/-- Whether a pending key can no longer find its colon. -/
def isStale (cursor : Cursor) (key : PendingKey) : Bool :=
  key.place.line ≠ cursor.line || maxKeyLength < cursor.index - key.place.index

/-- Gives up the pending keys that are stale. -/
def dropStale (l : Lexer) : Except Fault Lexer :=
  if l.pending.any fun key => isStale l.cursor key.2 && key.2.required then .error .malformed
  else .ok { l with pending := l.pending.filter fun key => !isStale l.cursor key.2 }

/-- Gives up the pending key within the innermost brackets. -/
def dropKey (l : Lexer) : Except Fault Lexer :=
  match l.pending.lookup l.flow with
  | some key =>
    if key.required then .error .malformed
    else .ok { l with pending := l.pending.filter (·.1 ≠ l.flow) }
  | none => .ok l

/-- Notes that the next token may be a key. -/
def noteKey (l : Lexer) : Except Fault Lexer :=
  if !l.keyAllowed then .ok l
  else do
    let l ← l.dropKey
    let required := l.flow = 0 && l.indent = l.cursor.column
    return { l with pending := (l.flow, ⟨l.found.length, required, l.cursor⟩) :: l.pending }

/-- Closes the blocks that start right of a column. -/
def closeBlocks (column : Int) (l : Lexer) : Lexer :=
  if l.flow ≠ 0 then l
  else
    let blocks := (l.indent :: l.outer).takeWhile (column < ·)
    let remaining := (l.indent :: l.outer).drop blocks.length
    { l with
      found := blocks.map (fun _ => Token.blockEnd) ++ l.found
      indent := remaining.head?.getD (-1)
      outer := remaining.drop 1 }

/-- Opens a block at a column, if it is right of the innermost block. -/
def openBlock? (column : Int) (l : Lexer) : Option Lexer :=
  if l.indent < column then some { l with indent := column, outer := l.indent :: l.outer } else none

/-- Opens a block at the cursor where one has to be opened. -/
def openBlock (mark : Token) (l : Lexer) : Lexer :=
  match l.openBlock? l.cursor.column with
  | some l => { l with found := mark :: l.found }
  | none => l

/-- Puts a token before the last `n` ones. -/
def insertBefore (n : Nat) (token : Token) (l : Lexer) : Lexer :=
  { l with found := l.found.take n ++ token :: l.found.drop n }

/-! ### Reading a token -/

/-- Goes past spaces, comments and line ends. Outside of brackets, a key may start on a new line. -/
def skipFiller : Nat → Lexer → Lexer
  | 0, l => l
  | fuel + 1, l =>
    let cursor := l.cursor.skipSpaces.skipComment
    if isBreak cursor.here then
      skipFiller fuel { l with cursor := cursor.step, keyAllowed := l.keyAllowed || l.flow = 0 }
    else { l with cursor := cursor }

/-- A mark at the start of a line that ends every block. -/
def outermost (l : Lexer) : Except Fault Lexer := do
  return { ← (l.closeBlocks (-1)).dropKey with keyAllowed := false }

/-- An opening bracket. -/
def openFlow (token : Token) (l : Lexer) : Except Fault Lexer := do
  let l ← l.noteKey
  return { l.push token l.cursor.step with flow := l.flow + 1, keyAllowed := true }

/-- A closing bracket. -/
def closeFlow (token : Token) (l : Lexer) : Except Fault Lexer := do
  let l ← l.dropKey
  if l.flow = 0 then l.cursor.step.fail .malformed
  else return { l.push token l.cursor.step with flow := l.flow - 1, keyAllowed := false }

/-- A comma within brackets. -/
def flowEntry (l : Lexer) : Except Fault Lexer := do
  let l ← l.dropKey
  return { l.push .flowEntry l.cursor.step with keyAllowed := true }

/-- A hyphen in front of an item. -/
def blockEntry (l : Lexer) : Except Fault Lexer :=
  if l.flow = 0 && !l.keyAllowed then l.cursor.step.fail .malformed
  else do
    let l := if l.flow = 0 then l.openBlock .blockSequenceStart else l
    let l ← l.dropKey
    return { l.push .blockEntry l.cursor.step with keyAllowed := true }

/-- A question mark in front of a key. -/
def key (l : Lexer) : Except Fault Lexer :=
  if l.flow = 0 && !l.keyAllowed then l.cursor.step.fail .malformed
  else do
    let l := if l.flow = 0 then l.openBlock .blockMappingStart else l
    let l ← l.dropKey
    return { l.push .key l.cursor.step with keyAllowed := l.flow = 0 }

/-- A colon. What pends before it was a key, and may start a mapping. -/
def value (l : Lexer) : Except Fault Lexer :=
  match l.pending.lookup l.flow with
  | some pending =>
    let behind := l.found.length - pending.number
    let l := { l with pending := l.pending.filter (·.1 ≠ l.flow), keyAllowed := false }
    let l := l.insertBefore behind .key
    let l :=
      if l.flow ≠ 0 then l
      else
        match l.openBlock? pending.place.column with
        | some l => l.insertBefore (behind + 1) .blockMappingStart
        | none => l
    .ok (l.push .value l.cursor.step)
  | none =>
    if l.flow = 0 && !l.keyAllowed then l.cursor.step.fail .malformed
    else
      let l := if l.flow = 0 then l.openBlock .blockMappingStart else l
      .ok { l.push .value l.cursor.step with keyAllowed := l.flow = 0 }

/-- A name that refers to a value or is given to one. -/
def anchor (make : String → Token) (l : Lexer) : Except Fault Lexer := do
  let l ← l.noteKey
  let (name, cursor) ← anchorName l.cursor
  return { l.push (make name) cursor with keyAllowed := false }

/-- A tag. -/
def tag (l : Lexer) : Except Fault Lexer := do
  let l ← l.noteKey
  let (token, cursor) ← tagToken l.cursor
  return { l.push token cursor with keyAllowed := false }

/-- A block scalar. -/
def block (l : Lexer) : Except Fault Lexer := do
  let l ← l.dropKey
  let (text, cursor) ← blockScalar l.indent l.cursor
  return { l.push (.scalar (String.ofList text) false) cursor with keyAllowed := true }

/-- A quoted scalar. -/
def quoted (l : Lexer) : Except Fault Lexer := do
  let l ← l.noteKey
  let (text, cursor) ← quotedScalar l.cursor
  return { l.push (.scalar (String.ofList text) false) cursor with keyAllowed := false }

/-- A plain scalar. -/
def plain (l : Lexer) : Except Fault Lexer := do
  let l ← l.noteKey
  let ((text, ended), cursor) ← plainScalar (l.flow ≠ 0) (l.indent + 1) l.cursor
  return { l.push (.scalar (String.ofList text) true) cursor with keyAllowed := ended }

/-- Whether a plain scalar can start at the cursor. -/
def atPlain (l : Lexer) : Bool :=
  let c := l.cursor.here
  let marks := "-?:,[]\x7b\x7d#&*!|>\x27\x22%@`".toList
  !(isGap c || marks.contains c) ||
    (!isGap (l.cursor.peek 1) && (c = '-' || (l.flow = 0 && (c = '?' || c = ':'))))

/-- Reads the token at the cursor. -/
def readToken (l : Lexer) : Except Fault Lexer :=
  let c := l.cursor
  let atStart : Bool := c.column = 0
  let gapNext := isGap (c.peek 1)
  let inFlow : Bool := l.flow ≠ 0
  match c.here with
  | '%' =>
    if atStart then do
      let l ← l.outermost
      let (token, cursor) ← directiveToken l.cursor
      return l.push token cursor
    else c.step.fail .malformed
  | '[' => l.openFlow .flowSequenceStart
  | ']' => l.closeFlow .flowSequenceEnd
  | '\x7b' => l.openFlow .flowMappingStart
  | '\x7d' => l.closeFlow .flowMappingEnd
  | ',' => l.flowEntry
  | '*' => l.anchor .alias
  | '&' => l.anchor .anchor
  | '!' => l.tag
  | '\x27' => l.quoted
  | '\x22' => l.quoted
  | ch =>
    if c.rest.isEmpty then do
      let l ← l.outermost
      return l.push .streamEnd l.cursor
    else if atStart && c.atMarks '-' then do
      let l ← l.outermost
      return l.push .documentStart (l.cursor.advance 3)
    else if atStart && c.atMarks '.' then do
      let l ← l.outermost
      return l.push .documentEnd (l.cursor.advance 3)
    else if ch = '-' && gapNext then l.blockEntry
    else if ch = '?' && (inFlow || gapNext) then l.key
    else if ch = ':' && (inFlow || gapNext) then l.value
    else if (ch = '|' || ch = '>') && !inFlow then l.block
    else if l.atPlain then l.plain
    else c.step.fail .malformed

/-- The number of characters beside the one at the cursor that it takes to tell a token. The start
and the end of a document are more than one mark, and some marks count only in front of a gap. -/
def lookahead (l : Lexer) : Nat :=
  let c := l.cursor
  if c.column = 0 && (c.here = '-' || c.here = '.') then c.divisionReach
  else if c.here = '-' || (l.flow = 0 && (c.here = '?' || c.here = ':')) then 1
  else 0

/-- Goes to the next token and reads it. A token that reaches the end of what can be read might go
on there, and is none. A pending key may turn out stale behind the token before, or at this one. -/
def next (l : Lexer) : Except Fault Lexer := do
  let l ← l.dropStale
  let l := skipFiller (l.cursor.rest.length + 1) l
  let _ ← l.cursor.readable 0
  let l ← l.dropStale
  let _ ← l.cursor.readable l.lookahead
  let l ← (l.closeBlocks l.cursor.column).readToken
  let _ ← l.cursor.readable 0
  return l

/-- The tokens that do not depend on what follows the cursor, in order: those before the first
pending key. -/
def settled (l : Lexer) : List Token :=
  let numbers := (l.pending.filter fun key => !isStale l.cursor key.2).map (·.2.number)
  l.found.reverse.take (numbers.foldl min l.found.length)

/-- The tokens once another one has been tried to read: unless the stream ends, or the text stops
being readable, there are `more`. -/
def goOn (l : Lexer) (more : Lexer → List Token) : Except Fault Lexer → List Token
  | .error fault => l.settled ++ [.unreadable fault]
  | .ok l => if l.found.head? = some .streamEnd then l.found.reverse else more l

/-- Reads tokens to the end of the stream, or to where the text stops being readable. -/
def toEnd : Nat → Lexer → List Token
  | 0, l => l.settled ++ [.unreadable .malformed]
  | fuel + 1, l => l.goOn (toEnd fuel) l.next

end Lexer

/-- The tokens of a source. A mark of byte order in front does not count. -/
def tokens (source : Text.Source) : List Token :=
  let start := Cursor.ofSource source
  let start := if start.here = byteOrderMark then start.step else start
  match start.barred? 0 with
  | some fault => [.unreadable fault]
  | none => Lexer.toEnd (start.rest.length + 2) { cursor := start }

end VitaeShell.Yaml
