/-!
# The clipboard

The clipboard lies outside of the program: it may refuse a text at any time, with words of its own.
It is known by how it responds, and by the texts that it has been offered so far.
-/

namespace VitaeShell

/-- A clipboard and what it has been offered. -/
structure Clipboard where
  /-- The words with which the offer of a number refuses a text; `none` if it takes it. -/
  refusal : Nat → String → Option String
  /-- The texts offered so far, the first one first. -/
  offered : List String := []

namespace Clipboard

/-- A clipboard that takes everything. -/
def willing : Clipboard where
  refusal _ _ := none

/-- A clipboard that refuses everything in the same words. -/
def unwilling (words : String) : Clipboard where
  refusal _ _ := some words

/-- What the clipboard answers to a text. -/
def response (c : Clipboard) (text : String) : Option String :=
  c.refusal c.offered.length text

/-- The clipboard after a text was offered. -/
def offer (c : Clipboard) (text : String) : Clipboard :=
  { c with offered := c.offered ++ [text] }

/-- The texts that were taken, in order. -/
def taken (c : Clipboard) : List String :=
  (c.offered.zipIdx.filter fun (text, n) => (c.refusal n text).isNone).map (·.1)

end Clipboard

end VitaeShell
