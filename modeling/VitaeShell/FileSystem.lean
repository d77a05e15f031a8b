import VitaeShell.Tree

/-!
# The file system

A tree with a current directory. Moving gives a new file system with the same tree; nothing writes.
The current directory need not exist, and then whatever needs it reports so.
-/

namespace VitaeShell

/-- A tree and the place in it where commands act. -/
structure FileSystem where
  root : Entries
  cwd : Path

/-- Why a path does not lead to what was asked for. -/
inductive PathFault where
  /-- The current directory does not exist. -/
  | lost
  /-- No directory stands where a path leads. -/
  | noDirectory (path : String)
  /-- No file of this name with something in it stands in the current directory. -/
  | noFile (name : String)
deriving DecidableEq, Repr

/-- The words in which a path fault is reported. -/
def PathFault.message : PathFault → String
  | .lost => "Invalid path"
  | .noDirectory path => "Directory not found: " ++ path
  | .noFile name => "File not found: " ++ name

namespace FileSystem

/-- The file system with nothing in it. -/
def empty : FileSystem :=
  ⟨[], []⟩

/-- The content of the current directory, if it exists. -/
def here? (fs : FileSystem) : Option Entries :=
  fs.root.find? fs.cwd

/-- The content of the current directory. -/
def here (fs : FileSystem) : Except PathFault Entries :=
  match fs.here? with
  | some entries => .ok entries
  | none => .error .lost

/-- Moves to the directory that a path text leads to. -/
def enter (fs : FileSystem) (path : String) : Except PathFault FileSystem :=
  let target := Path.resolve fs.cwd path
  match fs.root.find? target with
  | some _ => .ok { fs with cwd := target }
  | none => .error (.noDirectory path)

/-- The names in the current directory. -/
def names (fs : FileSystem) : Except PathFault (List String) :=
  match fs.here with
  | .ok entries => .ok (Table.names entries)
  | .error fault => .error fault

/-- The content of a file in the current directory. An empty file counts as none. -/
def fileContent (fs : FileSystem) (name : String) : Except PathFault Json :=
  match fs.here with
  | .error fault => .error fault
  | .ok entries =>
    match entries.lookup name with
    | some (.file content) => if content.isSubstantial then .ok content else .error (.noFile name)
    | _ => .error (.noFile name)

end FileSystem

end VitaeShell
