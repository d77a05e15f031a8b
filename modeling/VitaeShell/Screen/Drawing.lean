import VitaeShell.Payload.Reply
import VitaeShell.Screen.Grid
import VitaeShell.Screen.Search

/-!
# Drawing replies

The drawing of any output string. Plain text is coloured by what it says; a payload by its kind. The
cells of a matrix run through a row of glyphs, on from where the last matrix stopped.

The string is read one call further in than on its own, and could be nested one level less than
`Json.maxDepth` says; that is left out.
-/

namespace VitaeShell

/-- Why an output string cannot be drawn. -/
inductive DrawFault where
  | reply (fault : ReplyFault)
  | grid (fault : GridFault)
  | search (fault : SearchFault)
deriving DecidableEq, Repr

/-! ### Plain text -/

/-- The colour of a plain text. -/
def plainColour (text : String) : Code :=
  if Text.startsWith text "Error" then .red
  else if Text.startsWith text "Usage:" then .yellow
  else .cyan

/-! ### The matrix -/

/-- The glyphs of the matrix. -/
def glyphs : List Char :=
  "01アイウエオカキクケコサシスセソタチツテト".toList

/-- The glyph with a number. -/
def glyph (n : Nat) : Char :=
  (glyphs[n % glyphs.length]?).getD '0'

/-- A matrix whose first glyph has the number `used`. -/
def matrixText (used rows columns : Nat) : String :=
  String.intercalate "\n" ((List.range rows).map fun row =>
    String.ofList ((List.range columns).map fun column => glyph (used + row * columns + column)))

/-! ### Pictures -/

/-- A cup of coffee. -/
def coffeeCup : String :=
  String.intercalate "\n"
    ["    ( (", "     ) )", "  ........", "  |      |]", "  \\      /", "   `----'"]

/-! ### Payloads -/

namespace Payload

/-- The number of glyphs that a drawing takes. -/
def glyphCount : Payload → Nat
  | .matrix rows columns => rows.toNat * columns.toNat
  | _ => 0

/-- The drawing of a payload. -/
def draw (width : Int) (used : Nat) : Payload → Except DrawFault Screen
  | .text content => .ok (Screen.coloured .cyan content)
  | .list items => .ok (items.map fun item => [.bare "  ", ⟨[.green], "•"⟩, .bare (" " ++ item)])
  | .grid items => (Grid.draw width items).mapError .grid
  | .grep found => (Search.draw found).mapError .search
  | .matrix rows columns =>
    .ok (Screen.coloured .green (matrixText used rows.toNat columns.toNat))
  | .coffee _ =>
    .ok (Screen.coloured .yellow (coffeeCup ++ "\nCoffee break. Back in a minute."))
  | .meltdown => .ok (Screen.coloured .red "KERNEL PANIC: just kidding.")
  | .game name _ =>
    .ok (Screen.coloured .magenta ("[" ++ name ++ "] games are not available in this terminal."))

end Payload

namespace Reply

/-- The number of glyphs that a drawing takes. -/
def glyphCount : Reply → Nat
  | .plain _ => 0
  | .payload value => value.glyphCount

/-- The drawing of a reply. -/
def draw (width : Int) (used : Nat) : Reply → Except DrawFault Screen
  | .plain text => .ok (Screen.coloured (plainColour text) text)
  | .payload value => value.draw width used

end Reply

/-- The drawing of an output string, with the number of glyphs used up to its end. -/
def drawOutput (width : Int) (used : Nat) (raw : String) : Except DrawFault (Screen × Nat) := do
  let reply ← (Reply.read raw).mapError .reply
  return (← reply.draw width used, used + reply.glyphCount)

end VitaeShell
