import VitaeShell.Screen
import VitaeShell.Text.DigitTable

/-!
# Output

What becomes of a text on its way out (`Output.piece?`). Where colours are kept, it goes out as it
is, and the colours are taken back after it. Elsewhere it loses what a terminal would not show:
first the commands to the terminal, then the control sequences. A command that asks for a title
cannot be dealt with there, and keeps the text from going out.

A sequence or command may stand between the two characters that hide it from line editors, and goes
together with them.
-/

namespace VitaeShell.Output

/-- What follows the escape character that a text starts with, hidden or not. -/
def afterEscape? : List Char → Option (List Char)
  | '\x01' :: '\x1b' :: rest => some rest
  | '\x1b' :: rest => some rest
  | _ => none

/-- What follows once the character that ends the hiding is passed, if it stands there. -/
def unhidden : List Char → List Char
  | '\x02' :: rest => rest
  | cs => cs

/-! ### Control sequences -/

/-- What follows a control sequence that a text starts with: an escape, a bracket, numbers between
semicolons, and a letter. -/
def afterSequence? (cs : List Char) : Option (List Char) :=
  match afterEscape? cs with
  | some ('[' :: rest) =>
    match rest.dropWhile fun c => c = ';' || (Text.digitValue? c).isSome with
    | c :: rest => if c.toNat < 0x80 ∧ c.isAlpha then some (unhidden rest) else none
    | [] => none
  | _ => none

/-- Takes the control sequences out of a text; `skip` characters are left of one. -/
def withoutSequences (skip : Nat) : List Char → List Char
  | [] => []
  | c :: rest =>
    if skip ≠ 0 then withoutSequences (skip - 1) rest
    else
      match afterSequence? (c :: rest) with
      | some after => withoutSequences (rest.length - after.length) rest
      | none => c :: withoutSequences 0 rest

/-! ### Commands -/

/-- A command to the terminal: its words, and where it starts and stops in its text. -/
structure Command where
  start : Nat
  stop : Nat
  words : List Char
deriving DecidableEq, Repr

/-- The words of a command that a text starts with, up to the bell that ends it, and what
follows. -/
def command? (cs : List Char) : Option (List Char × List Char) :=
  match afterEscape? cs with
  | some (']' :: rest) =>
    let words := rest.takeWhile (· ≠ '\x07')
    match rest.drop words.length with
    | _ :: after => some (words, unhidden after)
    | [] => none
  | _ => none

/-- The commands in a text that stands at a place; `skip` characters are left of one. -/
def commands (place skip : Nat) : List Char → List Command
  | [] => []
  | c :: rest =>
    if skip ≠ 0 then commands (place + 1) (skip - 1) rest
    else
      match command? (c :: rest) with
      | some (words, after) =>
        let width := rest.length + 1 - after.length
        ⟨place, place + width, words⟩ :: commands (place + 1) (width - 1) rest
      | none => commands (place + 1) 0 rest

/-- Takes commands out of a text. Each is cut out where it stood in the whole text, although what
follows an earlier one has moved up by then. -/
def withoutCommands (found : List Command) (cs : List Char) : List Char :=
  found.foldl (fun cs command => cs.take command.start ++ cs.drop command.stop) cs

/-- Whether a command asks for a title: two words, the first of which says what to name. -/
def Command.asksForTitle (command : Command) : Bool :=
  command.words.count ';' = 1 &&
    ["", "0", "2", "02"].contains (String.ofList (command.words.takeWhile (· ≠ ';')))

/-! ### What goes out -/

/-- A text without what a terminal would not show; none if it asks for a title. -/
def plain? (text : String) : Option String :=
  let found := commands 0 0 text.toList
  if found.any Command.asksForTitle then none
  else some (String.ofList (withoutSequences 0 (withoutCommands found text.toList)))

/-- A piece as it goes out: with its colours, which are taken back after every piece, or without. -/
def piece? (colours : Bool) (text : String) : Option String :=
  if colours then some (text ++ resetSequence) else plain? text

end VitaeShell.Output
