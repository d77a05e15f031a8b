import VitaeShell.Command
import VitaeShell.Payload
import VitaeShell.Number.Numeral

/-!
# Built-in commands

The twelve commands of the terminal. Each is a function of its arguments and the file system alone,
except `copy`, which offers a text to the clipboard. A path that leads nowhere is told in the
output; only files that hold something else than text make a command fail.
-/

namespace VitaeShell

/-- The output that asks for an empty screen. -/
def clearSignal : String := "CLEAR_TERMINAL"

/-- A built-in command. -/
inductive Builtin where
  | coffee
  | help
  | about
  | matrix
  | cd
  | ls
  | cat
  | clear
  | pwd
  | grep
  | tree
  | copy
deriving DecidableEq, Repr

namespace Builtin

/-- The built-in commands, in the order in which they are listed. -/
def all : List Builtin :=
  [coffee, help, about, matrix, cd, ls, cat, clear, pwd, grep, tree, copy]

/-- The name that runs a command. -/
def name : Builtin → String
  | coffee => "coffee"
  | help => "help"
  | about => "about"
  | matrix => "matrix"
  | cd => "cd"
  | ls => "ls"
  | cat => "cat"
  | clear => "clear"
  | pwd => "pwd"
  | grep => "grep"
  | tree => "tree"
  | copy => "copy"

/-- What the user is told about a command. -/
def synopsis : Builtin → Synopsis
  | coffee => ⟨"", "coffee", []⟩
  | help => ⟨"Display information about available commands", "help [command]",
      [⟨"command", .text, false, "Specific command to get help for"⟩]⟩
  | about => ⟨"Display information about this ResumeTerminal", "about", []⟩
  | matrix => ⟨"", "matrix [lines] [columns]",
      [⟨"lines", .number, false, "Number of lines (default 12, min 4, max 32)"⟩,
        ⟨"columns", .number, false, "Number of columns (default 32, min 8, max 64)"⟩]⟩
  | cd => ⟨"Change current directory", "cd <directory> | cd..",
      [⟨"directory", .text, true, "The directory to change to"⟩]⟩
  | ls => ⟨"List contents of current directory", "ls", []⟩
  | cat => ⟨"Display file contents", "cat <file>",
      [⟨"file", .text, true, "The file to display"⟩]⟩
  | clear => ⟨"Clear the terminal screen", "clear", []⟩
  | pwd => ⟨"Print current working directory", "pwd", []⟩
  | grep => ⟨"Search for a specified pattern within files", "grep <keyword>",
      [⟨"keyword", .text, true, "The search term to look for in files"⟩]⟩
  | tree => ⟨"Display the directory structure in a tree format", "tree", []⟩
  | copy => ⟨"Copy contact information to clipboard", "copy <field>",
      [⟨"field", .text, true,
        "The field to copy (email, phone, website, linkedin, github)"⟩]⟩

/-! ### Help and information -/

/-- The list of the commands that are not hidden. -/
def helpList : String :=
  String.intercalate "\n" ((all.filter fun b => !b.synopsis.hidden).map fun b =>
    b.name ++ ": " ++ b.synopsis.description)

/-- What is told about the command of a name, hidden or not. -/
def helpOn (name : String) : String :=
  match all.find? fun b => b.name = name with
  | some b => name ++ ": " ++ b.synopsis.description ++ "\nUsage: " ++ b.synopsis.usage
  | none => "Unknown command: " ++ name

/-- The answer of `help`. -/
def runHelp : List String → String
  | [] => helpList
  | name :: _ => helpOn name

/-- The answer of `about`. -/
def aboutText : String :=
  "ResumeTerminal v1.0\n" ++
    "An interactive command-line interface for exploring a personal resume.\n" ++
    "Created with Python, cmd and colorama."

/-! ### The matrix -/

/-- The value between two bounds that is nearest to a number. -/
def clamp (low high n : Int) : Int :=
  max low (min high n)

/-- The whole part of a decimal number; none for other texts and for the infinities. -/
def wholePart? (text : String) : Option Int :=
  (Numeral.float? text).bind Binary64.truncate?

/-- The matrix of two given numbers, brought within bounds; any other arguments give the default. -/
def matrixOf (args : List String) : Payload :=
  match args with
  | [rows, columns] =>
    match wholePart? rows, wholePart? columns with
    | some rows, some columns => .matrix (clamp 4 32 rows) (clamp 8 64 columns)
    | _, _ => .matrix Payload.defaultRows Payload.defaultColumns
  | _ => .matrix Payload.defaultRows Payload.defaultColumns

/-! ### Moving and looking around -/

/-- The answer of `cd`; without an argument it goes to the root. -/
def runCd (args : List String) (fs : FileSystem) : Answer :=
  match fs.enter (args.head?.getD "/") with
  | .ok moved => ⟨"Changed directory to " ++ Path.format moved.cwd, moved⟩
  | .error fault => ⟨fault.message, fs⟩

/-- The entry of a grid for a node. -/
def gridItem (name : String) (node : Node) : GridItem :=
  ⟨.text name, .text (if node.isDir then directoryKind else fileKind)⟩

/-- The answer of `ls`. -/
def runLs (fs : FileSystem) : String :=
  match fs.here with
  | .ok entries => (Payload.grid (entries.map fun (name, node) => gridItem name node)).encode
  | .error fault => fault.message

/-- The answer of `tree`. -/
def runTree (args : List String) (fs : FileSystem) : String :=
  if !args.isEmpty then "Usage: tree"
  else
    match fs.here with
    | .ok entries =>
      (Payload.text (String.intercalate "\n"
        (Path.format fs.cwd :: Entries.draw "" entries))).encode
    | .error fault => fault.message

/-! ### Reading files -/

/-- The failure of cutting something else than text into lines. -/
def noLinesMessage (content : Json) : String :=
  "'" ++ content.kindName ++ "' object has no attribute 'split'"

/-- A text as it is shown: on its own, or as the list of its lines that are not blank. -/
def shownText (content : String) : Payload :=
  if content.toList.contains '\n' then
    .list ((Text.lines content).filter fun line => !Text.isBlankText line)
  else .text content

/-- Whether a collection has a newline among its members. -/
def hasNewline : Json → Bool
  | .list items => items.any (·.equals (.text "\n"))
  | .object fields => (fields.lookup "\n").isSome
  | _ => false

/-- The content of a file as `cat` answers it. -/
def showContent : Json → Except String String
  | .text content => .ok (shownText content).encode
  | content@(.list _) | content@(.object _) =>
    if hasNewline content then .error (noLinesMessage content)
    else .ok (Json.object [("type", .text "text-output"), ("content", content)]).encode
  | content => .error ("argument of type '" ++ content.kindName ++ "' is not iterable")

/-- The answer of `cat`. -/
def runCat (args : List String) (fs : FileSystem) : Except String String :=
  match args with
  | [] => .ok "Usage: cat <filename>"
  | name :: _ =>
    match fs.fileContent name with
    | .ok content => showContent content
    | .error fault => .ok fault.message

/-! ### Searching -/

/-- The matches in a text, line by line, for a keyword in lowercase. -/
def matchesIn (keyword : String) (path : Path) (content : String) : List GrepMatch :=
  (Text.lines content).zipIdx.filterMap fun (line, i) =>
    if Text.occursIn keyword.toList (Text.lower line.toList) then
      some ⟨.text (String.intercalate "/" path), i + 1, .text line, .text keyword⟩
    else none

/-- The matches in a list of files. A file that holds something else than text cannot be
searched. -/
def searchFiles (keyword : String) : List (Path × Json) → Except String (List GrepMatch)
  | [] => .ok []
  | (path, .text content) :: rest =>
    match searchFiles keyword rest with
    | .ok found => .ok (matchesIn keyword path content ++ found)
    | .error message => .error message
  | (_, content) :: _ => .error (noLinesMessage content)

/-- The answer of `grep`. -/
def runGrep (args : List String) (fs : FileSystem) : Except String String :=
  match args with
  | [word] =>
    let keyword := Text.lowercase word
    match fs.here with
    | .error fault => .ok fault.message
    | .ok entries =>
      match searchFiles keyword (Entries.files entries) with
      | .error message => .error message
      | .ok [] => .ok ("No matches found for '" ++ keyword ++ "'")
      | .ok found => .ok (Payload.grep found).encode
  | _ => .ok "Usage: grep <keyword>"

/-! ### Copying -/

/-- The contact fields that can be copied. -/
def contactFields : List String :=
  ["email", "phone", "website", "linkedin", "github"]

/-- What `copy` finds for a field: a text for the clipboard, or the answer that there is none. -/
def findContact (field : String) (fs : FileSystem) : Except String String :=
  match Entries.find? fs.root ["personalInfo", "contact"] with
  | none => .error "Contact information not found"
  | some contact =>
    if !contactFields.contains field then
      .error ("Invalid field. Available fields: " ++ String.intercalate ", " contactFields)
    else
      match contact.lookup (field ++ ".txt") with
      | some (.file (.text content)) =>
        if content = "" then .error ("Field not found: " ++ field) else .ok content
      | _ => .error ("Field not found: " ++ field)

/-- The answer of `copy`, and what becomes of the clipboard. -/
def runCopy (args : List String) (fs : FileSystem) (clipboard : Clipboard) : String × Clipboard :=
  match args with
  | [word] =>
    let field := Text.lowercase word
    match findContact field fs with
    | .error answer => (answer, clipboard)
    | .ok content =>
      let answer := match clipboard.response content with
        | some words =>
          "Failed to copy to clipboard: " ++ if words = "" then "Unknown error" else words
        | none => "Copied " ++ field ++ " to clipboard"
      (answer, clipboard.offer content)
  | _ =>
    ("Usage: copy <field> (where field is email, phone, website, linkedin, or github)", clipboard)

/-! ### The registry -/

/-- What a command answers; all but `copy` leave the clipboard alone. -/
def action (b : Builtin) : Action := fun args fs clipboard =>
  match b with
  | coffee => (.ok ⟨(Payload.coffee Payload.defaultDuration).encode, fs⟩, clipboard)
  | help => (.ok ⟨runHelp args, fs⟩, clipboard)
  | about => (.ok ⟨aboutText, fs⟩, clipboard)
  | matrix => (.ok ⟨(matrixOf args).encode, fs⟩, clipboard)
  | cd => (.ok (runCd args fs), clipboard)
  | ls => (.ok ⟨runLs fs, fs⟩, clipboard)
  | cat => ((runCat args fs).map (⟨·, fs⟩), clipboard)
  | clear => (.ok ⟨clearSignal, fs⟩, clipboard)
  | pwd => (.ok ⟨Path.format fs.cwd, fs⟩, clipboard)
  | grep => ((runGrep args fs).map (⟨·, fs⟩), clipboard)
  | tree => (.ok ⟨runTree args fs, fs⟩, clipboard)
  | copy =>
    let (answer, clipboard) := runCopy args fs clipboard
    (.ok ⟨answer, fs⟩, clipboard)

/-- The command in a registry. -/
def command (b : Builtin) : Command :=
  ⟨b.synopsis, b.action⟩

/-- The registry of the built-in commands. -/
def registry : Registry :=
  all.map fun b => (b.name, b.command)

end Builtin

end VitaeShell
