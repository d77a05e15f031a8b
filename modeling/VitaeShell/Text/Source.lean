import VitaeShell.Text.Lines
import VitaeShell.Text.Utf8

/-!
# Texts from files

The bytes of a file are read as text in portions (`Source.ofBytes`). Bytes that spell no text only
come to light with their portion: what the portions before it spell has been read by then. Who reads
asks either for a line, or for so many characters at a time; a portion then grows with the number of
bytes that characters have taken so far.
-/

namespace VitaeShell.Text

/-- A text as it is read from a file. -/
structure Source where
  /-- What can be read. -/
  text : List Char
  /-- Whether bytes follow that spell no text. -/
  broken : Bool := false
deriving DecidableEq, Repr

namespace Source

/-! ### Portions -/

/-- How far the bytes of a file have been read. -/
structure Progress where
  /-- The number of characters that are asked for at a time; zero where lines are asked for. -/
  asked : Nat
  /-- The number of them that are still to come. -/
  wanted : Nat := asked
  /-- The number of bytes in the last portion. -/
  bytes : Nat := 0
  /-- The number of characters that the last portion gave. -/
  chars : Nat := 0
  /-- The bytes of an unfinished character. -/
  unfinished : List UInt8 := []
  /-- Whether a carriage return is held back, after which a newline might come. -/
  held : Bool := false

namespace Progress

/-- The number of bytes in a portion that does not grow. -/
def usualSize : Nat := 8192

/-- The number of bytes that the next portion has at most. -/
def nextSize (p : Progress) : Nat :=
  max usualSize (if p.chars = 0 then 0 else p.bytes * p.wanted / p.chars)

/-- How far things are once a portion has been read whose bytes spell some characters, and the
characters that it gives. -/
def advance (p : Progress) (size : Nat) (spelled : List Char) (unfinished : List UInt8) :
    Progress × List Char :=
  let cs := if p.held then '\r' :: spelled else spelled
  let held := cs.getLast? = some '\r'
  let cs := normalizeNewlines (if held then cs.dropLast else cs)
  let wanted :=
    if cs.length < p.wanted then p.wanted - cs.length
    else p.asked - (cs.length - p.wanted) % p.asked
  ({ p with wanted, bytes := size, chars := cs.length, unfinished, held }, cs)

/-- The characters that come once all bytes have been read, and whether bytes are left over. -/
def finish (p : Progress) : List Char × Bool :=
  if p.unfinished.isEmpty then (if p.held then ['\n'] else [], false) else ([], true)

/-- The characters that bytes spell up to a portion with a byte that does not fit, and whether there
is one. -/
def read (p : Progress) : List UInt8 → List Char × Bool
  | [] => p.finish
  | byte :: rest =>
    let portion := byte :: rest.take (p.nextSize - 1)
    match decodeStart? (p.unfinished ++ portion) with
    | none => ([], true)
    | some (spelled, unfinished) =>
      let (next, cs) := p.advance portion.length spelled unfinished
      let (more, broken) := next.read (rest.drop (p.nextSize - 1))
      (cs ++ more, broken)
termination_by bytes => bytes.length
decreasing_by simp only [List.length_drop, List.length_cons]; omega

end Progress

/-! ### Sources -/

/-- The text of a file with these bytes, for one who asks for so many characters at a time, or for
lines if that is zero. -/
def ofBytes (asked : Nat) (bytes : List UInt8) : Source :=
  let (text, broken) := Progress.read { asked } bytes
  { text, broken }

/-- The text of a file with these characters. -/
def ofText (text : String) : Source :=
  ⟨normalizeNewlines text.toList, false⟩

/-- The whole text, if there is one. -/
def whole? (source : Source) : Option (List Char) :=
  if source.broken then none else some source.text

end Source

end VitaeShell.Text
