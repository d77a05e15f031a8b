import VitaeShell.Text.Casing
import VitaeShell.Text.Blank

/-!
# Command lines

A line is cut into words at blanks; a run between double quotes is one word, blanks and all, and a
quote that nothing closes counts for nothing (`tokens`). The first word names the command, in any
case, and the others are its arguments (`CommandLine.parse`).
-/

namespace VitaeShell

/-- The characters of a word that stands outside quotes. -/
def isWordChar (c : Char) : Bool :=
  !(Text.isBlank c) && c ≠ '\x22'

/-- The words of a text, from left to right. -/
def tokensOf (cs : List Char) : List (List Char) :=
  match cs with
  | [] => []
  | c :: rest =>
    if c = '\x22' then
      if rest.contains '\x22' then
        rest.takeWhile (· ≠ '\x22') :: tokensOf ((rest.dropWhile (· ≠ '\x22')).drop 1)
      else tokensOf rest
    else if Text.isBlank c then tokensOf rest
    else (c :: rest.takeWhile isWordChar) :: tokensOf (rest.dropWhile isWordChar)
termination_by cs.length
decreasing_by
  · have := (List.dropWhile_suffix (· ≠ '\x22') (l := rest)).length_le
    simp only [List.length_drop, List.length_cons]
    omega
  · simp
  · simp
  · have := (List.dropWhile_suffix isWordChar (l := rest)).length_le
    simp only [List.length_cons]
    omega

/-- The words of a line. -/
def tokens (line : String) : List String :=
  (tokensOf line.toList).map String.ofList

/-- A line as the name of a command and its arguments. -/
structure CommandLine where
  command : String
  args : List String
deriving DecidableEq, Repr

/-- Reads a line. The name is taken in lowercase; `cd..` is short for `cd ..`, and a line without
words names nothing. -/
def CommandLine.parse (line : String) : CommandLine :=
  let line := Text.strip line
  if Text.lowercase line = "cd.." then ⟨"cd", [".."]⟩
  else
    match tokens line with
    | [] => ⟨"", []⟩
    | name :: args => ⟨Text.lowercase name, args⟩

end VitaeShell
