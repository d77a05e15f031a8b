import VitaeShell.Json
import VitaeShell.Path
import VitaeShell.Table

/-!
# Trees of files

A directory is an ordered table of named nodes, each a file or a directory. This module follows
paths down a tree (`Entries.find?`), lists every file with its path (`Entries.files`) and draws a
tree with branches (`Entries.draw`).

A tree is listed and drawn however deep it is. The stack of calls, which bounds how deep JSON, YAML
and payloads can be nested, is left out here: a walk or drawing takes a call or two for each
directory down, so that it would end at a tree of some hundreds of levels, and the tree of a
document has three.

A file holds text, but for one case: a document whose parts were replaced without a check may put
any other value into a file. `Entries.TextOnly` excludes that.
-/

namespace VitaeShell

/-- A node of a tree. -/
inductive Node where
  | file (content : Json)
  | dir (entries : List (String × Node))
deriving Inhabited

/-- The content of a directory: its nodes by name, in order. -/
abbrev Entries := List (String × Node)

namespace Node

/-- Whether a node is a directory. -/
def isDir : Node → Bool
  | .file _ => false
  | .dir _ => true

/-- A file that holds text. -/
def ofText (content : String) : Node :=
  .file (.text content)

/-- The directory that a list of named nodes makes, the last node of a name being the one that
stays. -/
def ofList (nodes : List (String × Node)) : Node :=
  .dir (Table.ofList nodes)

end Node

namespace Entries

/-- The directory at a path below this one; `none` if any step is not a directory. -/
def find? (entries : Entries) : Path → Option Entries
  | [] => some entries
  | segment :: rest =>
    match entries.lookup segment with
    | some (.dir below) => find? below rest
    | _ => none

/-! ### Files -/

mutual

/-- The files of a node, each with its path from there. -/
def nodeFiles : Node → List (Path × Json)
  | .file content => [([], content)]
  | .dir entries => files entries

/-- The files below a directory in the order of a walk that goes into each directory as it comes,
each with its path from there. -/
def files : List (String × Node) → List (Path × Json)
  | [] => []
  | (name, node) :: rest =>
    (nodeFiles node).map (fun found => (name :: found.1, found.2)) ++ files rest

end

/-- Whether every file below a directory holds text. -/
def TextOnly (entries : Entries) : Prop :=
  ∀ found ∈ files entries, ∃ content, found.2 = .text content

/-! ### Drawing -/

/-- The branch that leads to the last node of a directory, or to another one. -/
def branch (last : Bool) : String :=
  if last then "└── " else "├── "

/-- What continues a branch on the lines below it. -/
def trunk (last : Bool) : String :=
  if last then "    " else "│   "

mutual

/-- The lines below a node. -/
def drawNode (indent : String) : Node → List String
  | .file _ => []
  | .dir entries => draw indent entries

/-- The lines of a directory: one for each node, a slash after the name of a directory, and the
lines of a directory's own nodes below it. -/
def draw (indent : String) : List (String × Node) → List String
  | [] => []
  | (name, node) :: rest =>
    let last := rest.isEmpty
    (indent ++ branch last ++ name ++ if node.isDir then "/" else "") ::
      (drawNode (indent ++ trunk last) node ++ draw indent rest)

end

end Entries

end VitaeShell
