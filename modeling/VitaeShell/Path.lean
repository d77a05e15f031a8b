import VitaeShell.Text.Blank
import VitaeShell.Text.Search

/-!
# Paths

A path is the list of segments that leads from the root; the root itself is the empty list. A path
text is resolved against a directory without a look at what exists (`Path.resolve`). Free text
becomes a safe segment by `sanitize`, which keeps ASCII letters, digits, points and hyphens and puts
single underscores for everything between them.
-/

namespace VitaeShell

/-- The segments from the root to a place. -/
abbrev Path := List String

namespace Path

/-- A path as text; the root is a lone slash. -/
def format (path : Path) : String :=
  "/" ++ String.intercalate "/" path

/-- The pieces of a path text between its slashes. -/
def pieces (text : String) : List String :=
  (text.toList.splitOn '/').map String.ofList

/-- Where one piece leads: nowhere, up by one segment as far as the root, or down. -/
def follow (path : Path) (piece : String) : Path :=
  if piece = "" ∨ piece = "." then path
  else if piece = ".." then path.dropLast
  else path ++ [piece]

/-- Where a path text leads from a directory. A slash in front makes it start at the root. -/
def resolve (cwd : Path) (text : String) : Path :=
  if text = "/" then []
  else (pieces text).foldl follow (if Text.startsWith text "/" then [] else cwd)

end Path

/-! ### Safe segments -/

/-- A character that a safe segment may hold. -/
def isSegmentChar (c : Char) : Bool :=
  (c.toNat < 0x80 && c.isAlphanum) || c = '.' || c = '_' || c = '-'

/-- Puts one underscore for each run of characters that are not safe; `inRun` says that such a run
has begun. -/
def replaceUnsafe (inRun : Bool) : List Char → List Char
  | [] => []
  | c :: rest =>
    if isSegmentChar c then c :: replaceUnsafe false rest
    else if inRun then replaceUnsafe true rest
    else '_' :: replaceUnsafe true rest

/-- Puts one underscore for each run of underscores. -/
def collapseUnderscores : List Char → List Char
  | [] => []
  | [c] => [c]
  | c :: d :: rest =>
    if c = '_' ∧ d = '_' then collapseUnderscores (d :: rest)
    else c :: collapseUnderscores (d :: rest)

/-- The text without underscores at either end. -/
def trimUnderscores (cs : List Char) : List Char :=
  ((cs.dropWhile (· = '_')).reverse.dropWhile (· = '_')).reverse

/-- The segment of a text in which nothing is safe. -/
def fallbackSegment : String := "company"

/-- A safe segment for free text, such as the name of a company. -/
def sanitize (text : String) : String :=
  let kept := trimUnderscores (collapseUnderscores (replaceUnsafe false (Text.trim text.toList)))
  if kept.isEmpty then fallbackSegment else String.ofList kept

end VitaeShell
