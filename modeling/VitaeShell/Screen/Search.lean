import VitaeShell.Number.Numeral
import VitaeShell.Payload
import VitaeShell.Screen
import VitaeShell.Text.Casing
import VitaeShell.Text.Search

/-!
# Search results

The rows of a search, paths and line numbers aligned, with the keyword marked wherever it occurs.
A keyword is looked for in the lowercase of a line and marked at the same places of the line itself;
where lowercasing makes a line longer, the marks stand further to the right or beyond its end.

The number of a line is written in decimal, which takes no more digits than a numeral is read with
(`Numeral.maxDigits`).
-/

namespace VitaeShell

/-! ### Marking a keyword -/

/-- The colours of a marked keyword. -/
def markCodes : List Code := [.bright, .red]

theorem Text.find?_nil_cons (c : Char) (cs : List Char) : Text.find? (c :: cs) [] = none := rfl

/-- A text with the keyword `c :: cs` marked where it stands in `lowered`. -/
def markFrom (c : Char) (cs : List Char) (text lowered : List Char) : Row :=
  match h : Text.find? (c :: cs) lowered with
  | none => [.bare (String.ofList text)]
  | some start =>
    let stop := start + cs.length + 1
    .bare (String.ofList (text.take start)) ::
      ⟨markCodes, String.ofList ((text.take stop).drop start)⟩ ::
      markFrom c cs (text.drop stop) (lowered.drop stop)
termination_by lowered.length
decreasing_by
  cases lowered with
  | nil => simp [Text.find?_nil_cons] at h
  | cons d ds => simp only [List.length_drop, List.length_cons]; omega

/-- A text with a keyword marked; an empty keyword marks nothing. -/
def highlight (text keyword : String) : Row :=
  match keyword.toList with
  | [] => [.bare text]
  | c :: cs => markFrom c cs text.toList (Text.lower text.toList)

/-! ### Rows -/

/-- What keeps the matches of a search from being drawn. -/
inductive SearchFault where
  /-- There are no matches to align. -/
  | noMatches
  /-- A path has no length. -/
  | pathWithoutLength
  /-- The number of a line has too many digits to be written. -/
  | numberTooLong
  /-- A path is a collection. -/
  | pathNotText
  /-- A line is no text. -/
  | contentNotText
  /-- A keyword is no text. -/
  | keywordNotText
deriving DecidableEq, Repr

namespace Search

/-- The length of a path, or of the collection that stands for one. -/
def pathLength : Json → Except SearchFault Nat
  | .text path => .ok path.length
  | .list items => .ok items.length
  | .object fields => .ok fields.length
  | _ => .error .pathWithoutLength

/-- The number of a line in decimal. -/
def numberText (line : Int) : Except SearchFault String :=
  if Numeral.maxDigits < (Nat.toDigits 10 line.natAbs).length then .error .numberTooLong
  else .ok (toString line)

/-- A path, if it is a text. -/
def pathText : Json → Except SearchFault String
  | .text path => .ok path
  | _ => .error .pathNotText

/-- A line with its keyword marked. Without a keyword any value is shown. -/
def markedLine (content keyword : Json) : Except SearchFault Row :=
  if !keyword.isSubstantial then .ok [.bare content.display]
  else
    match content, keyword with
    | .text line, .text word => .ok (highlight line word)
    | .text _, _ => .error .keywordNotText
    | _, _ => .error .contentNotText

/-- The row of a match. -/
def row (pathWidth lineWidth : Nat) (found : GrepMatch) : Except SearchFault Row := do
  let path ← pathText found.path
  let number ← numberText found.line
  let content ← markedLine found.content found.keyword
  return ⟨[.magenta], padRight pathWidth path⟩ :: .bare "  " ::
    ⟨[.green], padLeft lineWidth number⟩ :: .bare "  " :: content

/-- The drawing of the matches. All paths and numbers are measured before the first row is drawn. -/
def draw (found : List GrepMatch) : Except SearchFault Screen := do
  if found.isEmpty then .error .noMatches
  else
    let lengths ← found.mapM fun m => pathLength m.path
    let numbers ← found.mapM fun m => numberText m.line
    let pathWidth := lengths.foldl max 0
    let lineWidth := (numbers.map String.length).foldl max 0
    found.mapM (row pathWidth lineWidth)

end Search

end VitaeShell
