import VitaeShell.Text.Source
import VitaeShell.Yaml.Cursor

/-!
# How far a YAML text can be read

A YAML text is read a window at a time, each when it is needed. A window with a character that may
not stand in a YAML text, or with bytes that spell no text, cannot be read at all: the text ends in
a barrier in front of it (`Cursor.ofSource`). A fault found before the barrier comes first.
-/

namespace VitaeShell.Yaml

/-- The number of characters in a window. The first window is twice as wide. -/
def windowSize : Nat := 4096

/-- The number of characters in the windows that lie within the first `n` characters. -/
def windowed (n : Nat) : Nat :=
  if n < 2 * windowSize then 0 else n / windowSize * windowSize

/-- The number of characters before the first window with a character that may not stand there. -/
def beforeForbidden? (text : List Char) : Option Nat :=
  (text.findIdx? fun c => !isAllowed c).map windowed

/-- The number of characters before the first window with bytes that spell no text. -/
def beforeBroken? (source : Text.Source) : Option Nat :=
  if source.broken then some (windowed source.text.length) else none

/-- The place before the text of a source, as far as it can be read. -/
def Cursor.ofSource (source : Text.Source) : Cursor :=
  let upTo (n : Nat) (fault : Fault) : Cursor :=
    { rest := source.text.take n, barrier := some fault }
  match beforeForbidden? source.text, beforeBroken? source with
  | none, none => { rest := source.text }
  | some n, none => upTo n .malformed
  | none, some m => upTo m .notText
  | some n, some m => if n < m then upTo n .malformed else upTo m .notText

end VitaeShell.Yaml
