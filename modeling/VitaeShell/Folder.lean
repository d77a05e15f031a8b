import VitaeShell.Path
import VitaeShell.Text.Source

/-!
# Files on disk

The folder in which the program runs, as far as it is known: its files by name. Paths are followed
as the system follows them (`Folder.find?`), and what stands there is read as text, as far as its
bytes spell one (`Folder.sourceOf`).
-/

namespace VitaeShell

/-- What a name in a folder stands for. -/
inductive Stored where
  | text (content : String)
  | bytes (content : List UInt8)
  | folder
deriving DecidableEq, Repr

/-- The known files. A name with slashes lies in folders below. -/
structure Folder where
  files : List (String × Stored) := []
  /-- What is known to stand at a path exactly as it is written, wherever that leads. -/
  reached : List (String × Stored) := []
deriving Repr

namespace Folder

/-- A folder in which something is known to stand at a path as it is written. -/
def reach (folder : Folder) (path : String) (stored : Stored) : Folder :=
  { folder with reached := (path, stored) :: folder.reached }

/-- Why a file cannot be read as text. -/
inductive Fault where
  | isFolder
  | notText
deriving DecidableEq, Repr

/-- The words for a fault. -/
def Fault.message : Fault → String
  | .isFolder => "is a directory"
  | .notText => "is not UTF-8 text"

/-- What stands at a path below the folder. A name in a deeper folder implies the folders that lead
to it. -/
def at? (folder : Folder) (path : Path) : Option Stored :=
  let named := folder.files.map fun file => (Path.resolve [] file.1, file.2)
  match named.lookup path with
  | some stored => some stored
  | none =>
    if path = [] ∨ named.any fun file => path.isPrefixOf file.1 then some .folder else none

/-- Where the pieces of a path lead from a place in the folder; `outside` counts the folders above
it that the path has gone up. Nothing is known there but that it is a folder. -/
def follow (folder : Folder) (outside : Nat) (place : Path) : List String → Option Stored
  | [] => if outside = 0 then folder.at? place else some .folder
  | piece :: rest =>
    if (if outside = 0 then folder.at? place else some .folder) ≠ some .folder then none
    else if piece = "" ∨ piece = "." then follow folder outside place rest
    else if piece = ".." then
      if place = [] then follow folder (outside + 1) [] rest
      else follow folder outside place.dropLast rest
    else if outside = 0 then follow folder 0 (place ++ [piece]) rest
    else none

/-- What is known of the system around the folder: where its usual folders are, and the file that is
always empty. -/
def system : Folder where
  files := ("dev/null", .text "") ::
    ["bin", "dev", "etc", "home", "lib", "proc", "root", "sys", "tmp", "usr", "var"].map
      fun name => (name, .folder)

/-- What stands at a path. Relative paths start at the folder itself, the others at the root of the
system. -/
def find? (folder : Folder) (path : String) : Option Stored :=
  match folder.reached.lookup path with
  | some stored => some stored
  | none =>
    if path = "" ∨ path.toList.contains '\x00' then none
    else (if Text.startsWith path "/" then system else folder).follow 0 [] (Path.pieces path)

/-- The source that a file is for one who asks for so many characters at a time, or for lines if
that is zero. -/
def sourceOf (asked : Nat) : Stored → Except Fault Text.Source
  | .folder => .error .isFolder
  | .text content => .ok (Text.Source.ofText content)
  | .bytes content => .ok (Text.Source.ofBytes asked content)

end Folder

end VitaeShell
