import VitaeShell.Yaml.Cursor
import VitaeShell.Json.Reader

/-!
# Scalars of YAML

The three ways to write a text: in quotes, as a block below a `|` or `>`, or plain. Lines that a
scalar spans are folded: a single line end reads as a space, and further empty lines stay.
-/

namespace VitaeShell.Yaml

/-- What a line end and the line ends after it come to when lines are folded. -/
def folded (first more : List Char) : List Char :=
  if first ≠ ['\n'] then first ++ more else if more.isEmpty then [' '] else more

/-! ### Plain scalars -/

/-- A character that has a meaning of its own within brackets. -/
def isFlowMark (c : Char) : Bool :=
  c = ',' || c = '[' || c = ']' || c = '\x7b' || c = '\x7d'

/-- The characters of a plain scalar up to the next gap, within brackets (`flow`) or not. Behind the
last character the end of the text is taken to follow; `runReach` says how far a run has to be read
for that not to matter. -/
def plainRun (flow : Bool) : List Char → List Char
  | [] => []
  | c :: rest =>
    let next := rest.head?.getD endMark
    if isGap c || (c = ':' && (isGap next || (flow && isFlowMark next))) ||
        (flow && (isFlowMark c || c = '?')) then []
    else c :: plainRun flow rest

/-- The number of characters beside the one at the cursor that it takes to know where a run ends:
the one that ends it and, if that is a colon, the next one. -/
def runReach (c : Cursor) (run : List Char) : Nat :=
  if c.peek run.length = ':' then run.length + 1 else run.length

/-- The line ends within a plain scalar, past the spaces before each; none if a division of
documents follows one. -/
def plainBreaks : Nat → Cursor → Except Fault (Option (List Char) × Cursor)
  | 0, c => .ok (none, c)
  | fuel + 1, c =>
    if c.here = ' ' then plainBreaks fuel c.step
    else if isBreak c.here then do
      let (first, c) := c.lineBreak
      if ← c.divides then return (none, c)
      else
        let (more, c) ← plainBreaks fuel c
        return (more.map (first ++ ·), c)
    else .ok (some [], c)

/-- The gap after a run of a plain scalar, folded, and whether it ended a line. An empty gap ends
the scalar. -/
def plainGap (c : Cursor) : Except Fault ((List Char × Bool) × Cursor) :=
  let spaces := c.run (· = ' ')
  let c := c.advance spaces.length
  if !isBreak c.here then .ok ((spaces, false), c)
  else do
    let (first, c) := c.lineBreak
    if ← c.divides then return (([], true), c)
    else
      let (more?, c) ← plainBreaks (c.rest.length + 1) c
      return ((more?.elim [] (folded first), true), c)

/-- The text of a plain scalar after `gap`, whose continued lines are indented by at least
`indent`; and whether a line ended after it. -/
def plainFrom (flow : Bool) (indent : Int) : Nat → Cursor → List Char → Bool →
    Except Fault ((List Char × Bool) × Cursor)
  | 0, c, _, ended => .ok (([], ended), c)
  | fuel + 1, c, gap, ended => do
    let run := if c.here = '#' then [] else plainRun flow c.rest
    let c ← c.readable (runReach c run)
    if run.isEmpty then return (([], ended), c)
    else
      let ((next, ended), c) ← plainGap (c.advance run.length)
      if next.isEmpty || c.here = '#' || (!flow && (c.column : Int) < indent) then
        return ((gap ++ run, ended), c)
      else
        let ((more, ended), c) ← plainFrom flow indent fuel c next ended
        return ((gap ++ run ++ more, ended), c)

/-- The plain scalar at the cursor, and whether a line ended after it. -/
def plainScalar (flow : Bool) (indent : Int) (c : Cursor) :
    Except Fault ((List Char × Bool) × Cursor) :=
  plainFrom flow indent (c.rest.length + 1) c [] false

/-! ### Quoted scalars -/

/-- The character that a letter after a backslash stands for. -/
def escaped? (c : Char) : Option Char :=
  match c with
  | '0' => some '\x00'
  | 'a' => some '\x07'
  | 'b' => some '\x08'
  | 't' => some '\t'
  | '\t' => some '\t'
  | 'n' => some '\n'
  | 'v' => some '\x0b'
  | 'f' => some '\x0c'
  | 'r' => some '\r'
  | 'e' => some '\x1b'
  | ' ' => some ' '
  | '\x22' => some '\x22'
  | '\\' => some '\\'
  | '/' => some '/'
  | 'N' => some (Char.ofNat 0x85)
  | '_' => some (Char.ofNat 0xa0)
  | 'L' => some (Char.ofNat 0x2028)
  | 'P' => some (Char.ofNat 0x2029)
  | _ => none

/-- The number of hexadecimal digits that a letter after a backslash asks for. -/
def escapeWidth? (c : Char) : Option Nat :=
  match c with
  | 'x' => some 2
  | 'u' => some 4
  | 'U' => some 8
  | _ => none

/-- The number that hexadecimal digits write. -/
def hexNumber (cs : List Char) : Nat :=
  Numeral.valueOf 16 (cs.filterMap (Numeral.digitOf? 16))

/-- The character with a code. -/
def characterOf (code : Nat) : Except Fault Char :=
  if code < 0x110000 then .ok (Json.loneUnit code)
  else if code < 0x80000000 then .error .badValue
  else .error .valueTooLarge

/-- The line ends within a quoted scalar, past the blanks around each. No division of documents may
stand within the quotes. -/
def quotedBreaks : Nat → Cursor → Except Fault (List Char × Cursor)
  | 0, _ => .error .malformed
  | fuel + 1, c => do
    if ← c.divides then c.fail .malformed
    else
      let c := c.skip fun ch => ch = ' ' || ch = '\t'
      if !isBreak c.here then return ([], c)
      else
        let (first, c) := c.lineBreak
        let (more, c) ← quotedBreaks fuel c
        return (first ++ more, c)

/-- The gap within a quoted scalar, folded if it ends a line. -/
def quotedGap (c : Cursor) : Except Fault (List Char × Cursor) :=
  let blanks := c.run fun ch => ch = ' ' || ch = '\t'
  let c := c.advance blanks.length
  if c.rest.isEmpty then c.fail .malformed
  else if !isBreak c.here then .ok (blanks, c)
  else do
    let (first, c) := c.lineBreak
    let (more, c) ← quotedBreaks (c.rest.length + 1) c
    return (folded first more, c)

/-- What an escape stands for, the cursor being after its backslash. An escaped line end joins the
lines without a space. -/
def escape (c : Cursor) : Except Fault (List Char × Cursor) :=
  match escaped? c.here, escapeWidth? c.here with
  | some ch, _ => .ok ([ch], c.step)
  | none, some width =>
    let digits := (c.step.run fun ch => (Numeral.digitOf? 16 ch).isSome).take width
    if digits.length < width then (c.step.advance digits.length).fail .malformed
    else do
      return ([← characterOf (hexNumber digits)], c.advance (width + 1))
  | none, none =>
    if isBreak c.here then quotedBreaks (c.rest.length + 1) c.lineBreak.2 else c.fail .malformed

/-- The text of a quoted scalar up to its closing quote, and the place after that. -/
def quotedFrom (double : Bool) : Nat → Cursor → Except Fault (List Char × Cursor)
  | 0, _ => .error .malformed
  | fuel + 1, c =>
    let ch := c.here
    let after (piece : List Char) (c : Cursor) : Except Fault (List Char × Cursor) := do
      let (more, c) ← quotedFrom double fuel c
      return (piece ++ more, c)
    if !double && ch = '\x27' && c.peek 1 = '\x27' then after ['\x27'] (c.advance 2)
    else if ch = (if double then '\x22' else '\x27') then .ok ([], c.step)
    else if double && ch = '\\' then do
      let (piece, c) ← escape c.step
      after piece c
    else if isGap ch then do
      let (piece, c) ← quotedGap c
      after piece c
    else after [ch] c.step

/-- The quoted scalar at the cursor, which stands at the opening quote. -/
def quotedScalar (c : Cursor) : Except Fault (List Char × Cursor) :=
  quotedFrom (c.here = '\x22') (c.rest.length + 1) c.step

/-! ### Block scalars -/

/-- What becomes of the line ends after a block: none are kept, one, or all. -/
inductive Chomping where
  | strip
  | clip
  | keep
deriving DecidableEq, Repr

/-- The chomping that a sign asks for. -/
def chomping? (c : Char) : Option Chomping :=
  if c = '+' then some .keep else if c = '-' then some .strip else none

/-- The rest of a line that may hold a comment only, and its end. -/
def restOfLine (c : Cursor) : Except Fault Cursor :=
  let c := c.skipSpaces.skipComment
  if isLineEnd c.here then .ok c.lineBreak.2 else c.fail .malformed

/-- The signs after the mark of a block, in either order: chomping and indentation. -/
def blockHeader (c : Cursor) : Except Fault (Chomping × Option Nat × Cursor) := do
  let digit? (c : Cursor) : Option Nat :=
    if isDigit c.here then some (c.here.toNat - '0'.toNat) else none
  let (chomping, indent, c) :=
    match chomping? c.here with
    | some chomping =>
      match digit? c.step with
      | some n => (chomping, some n, c.advance 2)
      | none => (chomping, none, c.step)
    | none =>
      match digit? c with
      | some n =>
        match chomping? c.step.here with
        | some chomping => (chomping, some n, c.advance 2)
        | none => (.clip, some n, c.step)
      | none => (.clip, none, c)
  if indent = some 0 then .error .malformed
  else if !(c.here = ' ' || isLineEnd c.here) then c.fail .malformed
  else return (chomping, indent, ← restOfLine c)

/-- The empty lines in front of a block, and the largest column that their spaces reach. -/
def blockIndent : Nat → Cursor → Nat → List Char × Nat × Cursor
  | 0, c, widest => ([], widest, c)
  | fuel + 1, c, widest =>
    if c.here = ' ' then blockIndent fuel c.step (max widest c.step.column)
    else if isBreak c.here then
      let (first, c) := c.lineBreak
      let (more, widest, c) := blockIndent fuel c widest
      (first ++ more, widest, c)
    else ([], widest, c)

/-- The empty lines before the next line of a block, past the indentation of each. -/
def blockBreaks (indent : Nat) : Nat → Cursor → List Char × Cursor
  | 0, c => ([], c)
  | fuel + 1, c =>
    let c := c.advance (min (c.run (· = ' ')).length (indent - c.column))
    if !isBreak c.here then ([], c)
    else
      let (first, c) := c.lineBreak
      let (more, c) := blockBreaks indent fuel c
      (first ++ more, c)

/-- The lines of a block after the empty lines `before`: its text, the end of its last line, and the
empty lines after that. -/
def blockLines (fold : Bool) (indent : Nat) : Nat → Cursor → List Char →
    List Char × List Char × List Char × Cursor
  | 0, c, before => ([], [], before, c)
  | fuel + 1, c, before =>
    let isBlank (ch : Char) : Bool := ch = ' ' || ch = '\t'
    if c.column ≠ indent ∨ c.rest.isEmpty then ([], [], before, c)
    else
      let line := c.run (!isLineEnd ·)
      let (ending, next) := (c.advance line.length).lineBreak
      let (empty, next) := blockBreaks indent (next.rest.length + 1) next
      if next.column ≠ indent ∨ next.rest.isEmpty then (before ++ line, ending, empty, next)
      else
        let joint :=
          if fold && ending = ['\n'] && !isBlank c.here && !isBlank next.here then
            if empty.isEmpty then [' '] else []
          else ending
        let (more, ending, empty, last) := blockLines fold indent fuel next empty
        (before ++ line ++ joint ++ more, ending, empty, last)

/-- The block scalar at the cursor, which stands at its mark; `outer` is the indentation of what it
is a part of. -/
def blockScalar (outer : Int) (c : Cursor) : Except Fault (List Char × Cursor) := do
  let fold : Bool := c.here = '>'
  let (chomping, increment, c) ← blockHeader c.step
  let least := max 1 (outer + 1).toNat
  let fuel := c.rest.length + 1
  let (before, indent, c) :=
    match increment with
    | some n =>
      let (before, next) := blockBreaks (least + n - 1) fuel c
      (before, least + n - 1, next)
    | none =>
      let (before, widest, next) := blockIndent fuel c 0
      (before, max least widest, next)
  let (text, ending, empty, c) := blockLines fold indent fuel c before
  let tail := match chomping with
    | .strip => []
    | .clip => ending
    | .keep => ending ++ empty
  return (text ++ tail, c)

end VitaeShell.Yaml
