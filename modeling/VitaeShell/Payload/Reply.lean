import VitaeShell.Payload
import VitaeShell.Json.Reader

/-!
# Replies

The output string of a command, as a front end takes it: a payload if the string is an object of a
known kind whose fields fit, and plain text otherwise. Numbers may be written in other forms than
the writer's, and texts are taken from any value; three things only are refused outright: a kind
that is itself a collection, a number that is infinite, and what is nested too deep.
-/

namespace VitaeShell

/-- What an output string says. -/
inductive Reply where
  | plain (text : String)
  | payload (value : Payload)
deriving Repr

/-- Why an output string cannot be read at all. -/
inductive ReplyFault where
  /-- The field that names the kind holds a list or an object. -/
  | kindIsCollection
  /-- A whole number is asked for and an infinity stands there. -/
  | infiniteNumber
  /-- The string is nested too deep to be read. -/
  | tooDeep
deriving DecidableEq, Repr

namespace Reply

/-- Why an object is no payload: a field is missing or of the wrong sort, or a number is
infinite. -/
inductive Misfit where
  | unfit
  | infiniteNumber
deriving DecidableEq, Repr

/-- A field that has to be there. -/
def required (value : Json) (name : String) : Except Misfit Json :=
  match value.field? name with
  | some found => .ok found
  | none => .error .unfit

/-- A whole number in any of its forms: a number cut toward zero, a truth value, or a numeral. -/
def wholeNumber : Json → Except Misfit Int
  | .int n => .ok n
  | .bool b => .ok (if b then 1 else 0)
  | .float (.infinite _) => .error .infiniteNumber
  | .float x =>
    match x.truncate? with
    | some n => .ok n
    | none => .error .unfit
  | .text s =>
    match Numeral.int? s with
    | some n => .ok n
    | none => .error .unfit
  | _ => .error .unfit

/-- A whole number that may be left out. -/
def numberOr (value : Json) (name : String) (default : Int) : Except Misfit Int :=
  match value.field? name with
  | some found => wholeNumber found
  | none => .ok default

/-- The members of a collection: items, characters, or names of fields. -/
def members : Json → Except Misfit (List Json)
  | .list items => .ok items
  | .text s => .ok (s.toList.map fun c => .text (String.ofList [c]))
  | .object fields => .ok (fields.map fun field => .text field.1)
  | _ => .error .unfit

/-- An entry of a grid. -/
def gridItem (value : Json) : Except Misfit GridItem := do
  return ⟨← required value "name", ← required value "kind"⟩

/-- A match of a search. -/
def grepMatch (value : Json) : Except Misfit GrepMatch := do
  let path ← required value "path"
  let line ← wholeNumber (← required value "line")
  let content ← required value "content"
  let keyword ← required value "keyword"
  return ⟨path, line, content, keyword⟩

/-- The payload of the given kind that an object holds; an unknown kind holds none. -/
def ofObject (tag : String) (value : Json) : Except Misfit Payload :=
  if tag = "text-output" then do
    return .text (← required value "content").display
  else if tag = "list-output" then do
    return .list ((← members (← required value "items")).map Json.display)
  else if tag = "grid-output" then do
    return .grid (← (← members (← required value "items")).mapM gridItem)
  else if tag = "grep-output" then do
    return .grep (← (← members (← required value "matches")).mapM grepMatch)
  else if tag = "matrix-output" then do
    let rows ← numberOr value "lines" Payload.defaultRows
    let columns ← numberOr value "columns" Payload.defaultColumns
    return .matrix rows columns
  else if tag = "coffee-output" then do
    return .coffee (← numberOr value "duration" Payload.defaultDuration)
  else if tag = "system-meltdown-output" then
    return .meltdown
  else if tag = "game-output" then do
    return .game (← required value "game").display ((value.field? "state").getD .null)
  else
    .error .unfit

/-- What an output string says, or why it cannot be read. As many lists and objects as `depth` can
stand within one another. -/
def readWithin (depth : Nat) (raw : String) : Except ReplyFault Reply :=
  if raw.toList.head? ≠ some '\x7b' then .ok (.plain raw)
  else
    match Json.decodeWithin depth raw.toList with
    | .error .tooDeep => .error .tooDeep
    | .error _ => .ok (.plain raw)
    | .ok value =>
      match value.field? "type" with
      | some (.text tag) =>
        match ofObject tag value with
        | .ok found => .ok (.payload found)
        | .error .unfit => .ok (.plain raw)
        | .error .infiniteNumber => .error .infiniteNumber
      | some (.list _) => .error .kindIsCollection
      | some (.object _) => .error .kindIsCollection
      | _ => .ok (.plain raw)

/-- What an output string says, or why it cannot be read, where it is read on its own (see
`Json.maxDepth`). -/
def read (raw : String) : Except ReplyFault Reply :=
  readWithin Json.maxDepth raw

end Reply

end VitaeShell
