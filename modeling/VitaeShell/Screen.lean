import VitaeShell.Text.Lines

/-!
# Coloured text

What is drawn on the screen: rows of pieces, each of which may stand in colours. A screen has two
views, the text with the codes that set the colours (`Screen.toText`) and the rows as they are read
(`Screen.plainRows`).
-/

namespace VitaeShell

/-- A code that sets a colour or a weight. -/
inductive Code where
  | bright
  | red
  | green
  | yellow
  | blue
  | magenta
  | cyan
  | white
  | grey
deriving DecidableEq, Repr

/-- A sequence that controls the terminal, from its number. -/
def controlSequence (number : Nat) : String :=
  "\x1b[" ++ toString number ++ "m"

/-- The number of a code. -/
def Code.number : Code → Nat
  | bright => 1
  | red => 31
  | green => 32
  | yellow => 33
  | blue => 34
  | magenta => 35
  | cyan => 36
  | white => 37
  | grey => 90

/-- The sequence that sets a code. -/
def Code.sequence (code : Code) : String :=
  controlSequence code.number

/-- The sequence that takes all codes back. -/
def resetSequence : String :=
  controlSequence 0

/-- A piece of a row; without codes it stands as it is. -/
structure Piece where
  codes : List Code
  text : String
deriving DecidableEq, Repr

/-- A row of the screen. -/
abbrev Row := List Piece

/-- The rows of a drawing. -/
abbrev Screen := List Row

namespace Piece

/-- A piece without colours. -/
def bare (text : String) : Piece :=
  ⟨[], text⟩

/-- A piece with the sequences that colour it and take the colours back. -/
def toText (piece : Piece) : String :=
  if piece.codes.isEmpty then piece.text
  else String.join (piece.codes.map Code.sequence) ++ piece.text ++ resetSequence

end Piece

namespace Screen

/-- The text of the screen with its sequences. -/
def toText (screen : Screen) : String :=
  String.intercalate "\n" (screen.map fun row => String.join (row.map Piece.toText))

/-- The rows as they are read. -/
def plainRows (screen : Screen) : List String :=
  screen.map fun row => String.join (row.map (·.text))

/-- A text in a colour, line by line. An empty text has one empty line. -/
def coloured (code : Code) (text : String) : Screen :=
  let lines := Text.screenLines text.toList
  (if lines.isEmpty then [[]] else lines).map fun line => [⟨[code], String.ofList line⟩]

end Screen

/-- The text with spaces after it up to a width. -/
def padRight (width : Nat) (text : String) : String :=
  text ++ String.ofList (List.replicate (width - text.length) ' ')

/-- The text with spaces before it up to a width. -/
def padLeft (width : Nat) (text : String) : String :=
  String.ofList (List.replicate (width - text.length) ' ') ++ text

end VitaeShell
