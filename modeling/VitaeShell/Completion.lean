import VitaeShell.Command
import VitaeShell.Text.Search

/-!
# Completion

Completing the last word of the input. The first time, the word is replaced by the first candidate
that starts with it; each further time by the next one, and after the last comes the first. What is
remembered for that is a `Completion`; any other key forgets it.
-/

namespace VitaeShell

/-- A cycle through the candidates for a word; without a stem, no cycle is on. -/
structure Completion where
  /-- The word as it was when the cycle began. -/
  stem : Option String := none
  options : List String := []
  index : Nat := 0
deriving DecidableEq, Repr

/-- A key of the terminal. -/
inductive Key where
  | tab
  | arrowUp
  | arrowDown
  | character
  | backspace
  | interrupt
  | clearScreen
deriving DecidableEq, Repr

/-- The text without control characters. -/
def stripControl (cs : List Char) : List Char :=
  cs.filter fun c => 0x20 ≤ c.toNat

/-- The candidates that start with a text, in any case. -/
def candidatesFor (candidates : List String) (stem : String) : List String :=
  candidates.filter fun candidate =>
    (Text.lower stem.toList).isPrefixOf (Text.lower candidate.toList)

namespace Completion

/-- No cycle. -/
def idle : Completion := {}

/-- Whether a cycle is on. -/
def active (c : Completion) : Bool :=
  c.stem.isSome

/-- The words of an input between single spaces; a space at the end opens an empty one. -/
def words (input : String) : List String :=
  (input.toList.splitOn ' ').map String.ofList

/-- The last word of an input. -/
def lastWord (input : String) : String :=
  (words input).getLast?.getD ""

/-- The input with another last word. -/
def replaceLast (input word : String) : String :=
  String.intercalate " " ((words input).dropLast ++ [word])

/-- Completes the input, or steps through the cycle. Without a fitting candidate nothing changes. -/
def complete (c : Completion) (input : String) (candidates : List String) : Completion × String :=
  let stem := c.stem.getD (lastWord input)
  let options := candidatesFor candidates stem
  if options.isEmpty then (c, input)
  else
    let index :=
      if options = c.options ∧ c.stem = some stem then (c.index + 1) % options.length else 0
    (⟨some stem, options, index⟩, replaceLast input (options[index]?.getD ""))

/-- What a key does to the input. Only the tab key keeps a cycle on. -/
def press (c : Completion) (key : Key) (character input : String) (candidates : List String) :
    Completion × String :=
  match key with
  | .tab => c.complete input candidates
  | .character =>
    (idle, input ++ String.ofList (stripControl character.toList))
  | .backspace => (idle, String.ofList input.toList.dropLast)
  | _ => (idle, input)

/-- Whether the input is still at its first word; spaces in front do not count. -/
def atFirstWord (input : String) : Bool :=
  !(input.toList.dropWhile (· = ' ')).contains ' '

/-- What may complete the input: the names of commands for the first word, and what the current
directory holds for others. -/
def candidates (registry : Registry) (fs : FileSystem) (input : String) : List String :=
  if atFirstWord input then registry.visibleNames
  else
    match fs.names with
    | .ok names => names
    | .error _ => []

end Completion

end VitaeShell
