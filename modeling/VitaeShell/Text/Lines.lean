/-!
# Lines

Two ways to cut a text into lines. A file is cut at each newline, and keeps an empty last piece
(`lines`); a text on its way to the screen is cut at every line boundary of Unicode, a carriage
return with its newline being one, and a boundary at the end opens no further line (`screenLines`).
-/

namespace VitaeShell.Text

/-- The pieces of a string between newlines; one more than there are newlines. -/
def lines (s : String) : List String :=
  (s.toList.splitOn '\n').map String.ofList

/-- A character that ends a line on the screen. -/
def isLineBreak (c : Char) : Bool :=
  let n := c.toNat
  (0x0a ≤ n && n ≤ 0x0d) || (0x1c ≤ n && n ≤ 0x1e) || n == 0x85 || n == 0x2028 || n == 0x2029

/-- The lines of a text as the screen shows them, `begun` being the first of them so far, last
character first. -/
def screenLinesFrom (begun : List Char) : List Char → List (List Char)
  | [] => if begun.isEmpty then [] else [begun.reverse]
  | '\r' :: '\n' :: rest => begun.reverse :: screenLinesFrom [] rest
  | c :: rest =>
    if isLineBreak c then begun.reverse :: screenLinesFrom [] rest
    else screenLinesFrom (c :: begun) rest

/-- The lines of a text as the screen shows them. -/
def screenLines (cs : List Char) : List (List Char) :=
  screenLinesFrom [] cs

/-- Carriage returns, alone or before a newline, read as newlines: how a file opened as text
reads. -/
def normalizeNewlines : List Char → List Char
  | [] => []
  | '\r' :: '\n' :: rest => '\n' :: normalizeNewlines rest
  | c :: rest => (if c = '\r' then '\n' else c) :: normalizeNewlines rest

end VitaeShell.Text
