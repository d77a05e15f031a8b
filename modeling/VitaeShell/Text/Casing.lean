import VitaeShell.Text.CaseTable

/-!
# Lowercase and uppercase

The full case maps of Unicode, in which one letter may become several. Lowercasing depends on the
place of a letter in one case only: a capital sigma at the end of a word becomes a final sigma
(`endsWord`).
-/

namespace VitaeShell.Text

/-- Whether one of the ranges holds the character. -/
def inRanges (ranges : List (Nat × Nat)) (c : Char) : Bool :=
  ranges.any fun range => range.1 ≤ c.toNat && c.toNat ≤ range.2

/-- A letter that has a case. -/
def isCased (c : Char) : Bool :=
  if c.toNat < 0x80 then c.isAlpha else inRanges casedRanges c

/-- A character that the case rules look past, such as an accent or an apostrophe. -/
def isCaseIgnorable (c : Char) : Bool :=
  inRanges caseIgnorableRanges c

/-- The image of a character under the first run that holds it, or the character itself. -/
def mapByRuns (runs : List CaseRun) (c : Char) : Char :=
  ((runs.findSome? (·.image? c.toNat)).map Char.ofNat).getD c

/-- The lowercase of one letter, whatever stands around it. -/
def lowerLetter (c : Char) : List Char :=
  if c.toNat < 0x80 then [c.toLower]
  else if c.toNat = 0x130 then ['i', Char.ofNat 0x307]
  else [mapByRuns lowercaseRuns c]

/-- Whether no cased letter follows, looking past ignorable characters. -/
def endsWord (rest : List Char) : Bool :=
  match rest.dropWhile isCaseIgnorable with
  | [] => true
  | c :: _ => !isCased c

/-- Lowercase of a text that a cased letter precedes (`inWord`) or not, looking past ignorable
characters. -/
def lowerFrom (inWord : Bool) : List Char → List Char
  | [] => []
  | c :: rest =>
    let image := if c.toNat = 0x3a3 && inWord && endsWord rest then [Char.ofNat 0x3c2]
      else lowerLetter c
    image ++ lowerFrom (if isCaseIgnorable c then inWord else isCased c) rest

/-- The text in lowercase. -/
def lower (cs : List Char) : List Char :=
  lowerFrom false cs

/-- The uppercase of one letter. -/
def upperLetter (c : Char) : List Char :=
  if c.toNat < 0x80 then [c.toUpper]
  else
    match uppercaseExpansions.lookup c.toNat with
    | some codes => codes.map Char.ofNat
    | none => [mapByRuns uppercaseRuns c]

/-- A string in lowercase. -/
def lowercase (s : String) : String :=
  String.ofList (lower s.toList)

/-- A string in uppercase. -/
def uppercase (s : String) : String :=
  String.ofList (s.toList.flatMap upperLetter)

@[simp]
theorem lower_nil : lower [] = [] := rfl

@[simp]
theorem toList_lowercase (s : String) : (lowercase s).toList = lower s.toList := by
  simp [lowercase]

end VitaeShell.Text
