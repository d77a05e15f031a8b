import VitaeShell.Json.Printer

/-!
# Payloads

What a command has to show beyond plain text: eight kinds of structured output. A payload travels
inside the one output string of a command as JSON on a single line, with its kind first
(`Payload.encode`); `VitaeShell.Payload.Reply` reads it back. A payload that comes from elsewhere
can be nested too deep to be written (`Payload.encode?`). Each step down takes a call out of a stack
that holds a thousand; `Payload.maxSteps` holds where eight of them are in use.
-/

namespace VitaeShell

/-- The kind of a directory in a grid. -/
def directoryKind : String := "directory"

/-- The kind of a file in a grid. -/
def fileKind : String := "file"

/-- One entry of a grid. Grids that come from elsewhere may carry any value in either field. -/
structure GridItem where
  name : Json
  kind : Json
deriving Repr

/-- One line found by a search, with the path of its file and its number from one. Only the number
is sure to be one; the other fields may carry any value when the match comes from elsewhere. -/
structure GrepMatch where
  path : Json
  line : Int
  content : Json
  keyword : Json
deriving Repr

/-- A structured output. -/
inductive Payload where
  | text (content : String)
  | list (items : List String)
  | grid (items : List GridItem)
  | grep (found : List GrepMatch)
  | matrix (rows columns : Int)
  | coffee (duration : Int)
  | meltdown
  | game (name : String) (state : Json)
deriving Repr

namespace Payload

/-- The rows of a matrix that names none. -/
def defaultRows : Int := 12

/-- The columns of a matrix that names none. -/
def defaultColumns : Int := 32

/-- The milliseconds of a coffee break that names none. -/
def defaultDuration : Int := 60000

/-- The name of a payload's kind. -/
def tag : Payload → String
  | .text _ => "text-output"
  | .list _ => "list-output"
  | .grid _ => "grid-output"
  | .grep _ => "grep-output"
  | .matrix _ _ => "matrix-output"
  | .coffee _ => "coffee-output"
  | .meltdown => "system-meltdown-output"
  | .game _ _ => "game-output"

/-- An entry of a grid as an object. -/
def gridItemJson (item : GridItem) : Json :=
  .object [("name", item.name), ("kind", item.kind)]

/-- A match as an object. -/
def grepMatchJson (found : GrepMatch) : Json :=
  .object [("path", found.path), ("line", .int found.line), ("content", found.content),
    ("keyword", found.keyword)]

/-- The fields of a payload, its kind apart. -/
def fields : Payload → List (String × Json)
  | .text content => [("content", .text content)]
  | .list items => [("items", .list (items.map .text))]
  | .grid items => [("items", .list (items.map gridItemJson))]
  | .grep found => [("matches", .list (found.map grepMatchJson))]
  | .matrix rows columns => [("lines", .int rows), ("columns", .int columns)]
  | .coffee duration => [("duration", .int duration)]
  | .meltdown => []
  | .game name state => [("game", .text name), ("state", state)]

/-- A payload as an object, with its kind first. -/
def toJson (payload : Payload) : Json :=
  .object (("type", .text payload.tag) :: payload.fields)

/-- A payload as the line that carries it. -/
def encode (payload : Payload) : String :=
  payload.toJson.encode

/-! ### Depth -/

mutual

/-- The number of steps down to the innermost part of a value: two into a list or an object, and
three for anything else. -/
def steps : Json → Nat
  | .list items => 2 + stepsOfItems items
  | .object fields => 2 + stepsOfFields fields
  | _ => 3

/-- The number of steps down to the innermost part of items. -/
def stepsOfItems : List Json → Nat
  | [] => 0
  | item :: rest => max (steps item) (stepsOfItems rest)

/-- The number of steps down to the innermost part of fields, the names of which are parts as
well. -/
def stepsOfFields : List (String × Json) → Nat
  | [] => 0
  | (_, value) :: rest => max (max 3 (steps value)) (stepsOfFields rest)

end

/-- The number of steps down to the innermost part of a payload. The list of a grid or a search is
two steps above its records, and a record one step above its fields. -/
def depth : Payload → Nat
  | .grid items => 3 + stepsOfItems (items.flatMap fun item => [item.name, item.kind])
  | .grep found =>
    3 + stepsOfItems (found.flatMap fun line =>
      [line.path, .int line.line, line.content, line.keyword])
  | payload => stepsOfFields payload.fields

/-- The number of steps that are taken to write a payload, where eight calls out of a thousand are
in use. With more calls in use it is that many less. -/
def maxSteps : Nat := 992

/-- Whether a payload can be written. -/
def isWithinReach (payload : Payload) : Bool :=
  payload.depth ≤ maxSteps

/-- A payload as the line that carries it, unless it is nested too deep. -/
def encode? (payload : Payload) : Option String :=
  if payload.isWithinReach then some payload.encode else none

/-! ### Equality -/

/-- Equality of grid entries. -/
def gridItemEquals (a b : GridItem) : Bool :=
  a.name.equals b.name && a.kind.equals b.kind

/-- Equality of matches. -/
def grepMatchEquals (a b : GrepMatch) : Bool :=
  a.path.equals b.path && a.line == b.line && a.content.equals b.content &&
    a.keyword.equals b.keyword

/-- Equality of payloads. -/
def equals : Payload → Payload → Bool
  | .text a, .text b => a == b
  | .list a, .list b => a == b
  | .grid a, .grid b => a.length == b.length && (a.zip b).all fun (x, y) => gridItemEquals x y
  | .grep a, .grep b => a.length == b.length && (a.zip b).all fun (x, y) => grepMatchEquals x y
  | .matrix a b, .matrix c d => a == c && b == d
  | .coffee a, .coffee b => a == b
  | .meltdown, .meltdown => true
  | .game a s, .game b t => a == b && s.equals t
  | _, _ => false

end Payload

end VitaeShell
