import VitaeShell.Text.DigitTable
import VitaeShell.Text.Search

/-!
# Options of the command line

The options of the program, written `--name value` or `--name=value`. A name may be cut short as
long as one option only starts with it. A word that looks like an option is never taken for a value,
unless it is a negative number or holds a space. Only the option for help has a short form.
-/

namespace VitaeShell

/-- What the command line asks for. Empty texts ask for nothing. -/
structure Options where
  resume : String := ""
  /-- The settings file; none if the option for it is given without a name. -/
  config : Option String
  startup : String := ""
  logLevel : String := ""
  noColour : Bool := false
deriving DecidableEq, Repr

namespace Options

/-- An option. -/
inductive Name where
  | help
  | resume
  | config
  | startup
  | logLevel
  | noColour
deriving DecidableEq, Repr

/-- The spellings of the options. -/
def spellings : List (String × Name) :=
  [("-h", .help), ("--help", .help), ("--resume", .resume), ("--config", .config),
    ("--startup", .startup), ("--log-level", .logLevel), ("--no-colour", .noColour)]

/-- The words that explain how the program is called. -/
def usage : String :=
  String.intercalate "\n" [
    "usage: vitae-shell [--resume FILE] [--config FILE] [--startup FILE]",
    "                   [--log-level LEVEL] [--no-colour]",
    "",
    "Explore a resume from a simulated shell.",
    "",
    "  --resume FILE      resume file (YAML or JSON)",
    "  --config FILE      settings file (YAML)",
    "  --startup FILE     file of commands to run first",
    "  --log-level LEVEL  logging level, e.g. DEBUG",
    "  --no-colour        disable coloured output",
    ""]

/-- Whether an option has a value. -/
def Name.hasValue : Name → Bool
  | help | noColour => false
  | _ => true

/-- What the command line comes to. -/
inductive Reading where
  | options (options : Options)
  /-- The user asks for help. -/
  | help
  /-- The command line makes no sense. -/
  | misuse
deriving DecidableEq, Repr

/-! ### Words -/

/-- What a word of the command line is. -/
inductive Word where
  /-- A value, or a word on its own. -/
  | plain (text : String)
  /-- The mark after which all words are plain. -/
  | mark
  /-- An option, with a value in the same word if there is one. -/
  | option (name : Name) (value : Option String)
  /-- The short option for help with more letters in the same word. -/
  | helpAndMore (letters : List Char)
  /-- An option that does not exist. -/
  | unknown
deriving DecidableEq, Repr

/-- A negative number in digits, with a point or without. -/
def isNegativeNumber (cs : List Char) : Bool :=
  let isDigit (c : Char) : Bool := (Text.digitValue? c).isSome
  match cs with
  | '-' :: rest =>
    let rest := if rest.getLast? = some '\n' then rest.dropLast else rest
    let whole := rest.takeWhile isDigit
    match rest.drop whole.length with
    | [] => !whole.isEmpty
    | '.' :: fraction => !fraction.isEmpty && fraction.all isDigit
    | _ => false
  | _ => false

/-- The part of a word before its first equals sign, and the part after it. -/
def splitValue (text : String) : String × Option String :=
  let cs := text.toList
  let name := cs.takeWhile (· ≠ '=')
  (String.ofList name,
    if name.length < cs.length then some (String.ofList (cs.drop (name.length + 1))) else none)

/-- A word that is no spelling of an option. -/
def otherWord (text : String) : Word :=
  if isNegativeNumber text.toList || text.toList.contains ' ' then .plain text else .unknown

/-- What a word is before any mark; none for an option cut too short to tell. -/
def word? (text : String) : Option Word :=
  match text.toList with
  | '-' :: '-' :: _ =>
    let (name, value) := splitValue text
    match spellings.lookup text, spellings.lookup name with
    | some option, _ => some (.option option none)
    | none, some option => some (.option option value)
    | none, none =>
      match spellings.filter fun entry => Text.startsWith entry.1 name with
      | [] => some (otherWord text)
      | [entry] => some (.option entry.2 value)
      | _ => none
  | ['-'] => some (.plain text)
  | ['-', 'h'] => some (.option .help none)
  | '-' :: 'h' :: '=' :: letters => some (.helpAndMore letters)
  | '-' :: 'h' :: letters => some (.helpAndMore letters)
  | '-' :: _ => some (otherWord text)
  | _ => some (.plain text)

/-- The words of a command line; none if one of them is cut too short. -/
def words? : List String → Option (List Word)
  | [] => some []
  | text :: rest =>
    if text = "--" then some (.mark :: rest.map .plain)
    else do return (← word? text) :: (← words? rest)

/-! ### Reading -/

/-- Whether letters after the short option for help still ask for help: each has to be one more
short option for help. -/
def stillHelp (letters : List Char) : Bool :=
  !letters.isEmpty && letters.all (· = 'h')

/-- Sets an option, to nothing if no value is given. -/
def set (options : Options) (name : Name) (value : Option String) : Options :=
  match name with
  | .resume => { options with resume := value.getD "" }
  | .config => { options with config := value }
  | .startup => { options with startup := value.getD "" }
  | .logLevel => { options with logLevel := value.getD "" }
  | .noColour => { options with noColour := true }
  | .help => options

/-- The value in the word of an option. The mark is taken out of values. -/
def givenValue (value : String) : Option String :=
  if value = "--" then none else some value

/-- Reads words on from the options so far; `astray` says that a word was left over. -/
def readFrom (options : Options) (astray : Bool) : List Word → Reading
  | [] => if astray then .misuse else .options options
  | .plain _ :: rest => readFrom options true rest
  | .mark :: rest => readFrom options true rest
  | .unknown :: rest => readFrom options true rest
  | .helpAndMore letters :: _ => if stillHelp letters then .help else .misuse
  | .option .help none :: _ => .help
  | .option .noColour none :: rest => readFrom (options.set .noColour none) astray rest
  | .option name (some value) :: rest =>
    if name.hasValue then readFrom (options.set name (givenValue value)) astray rest else .misuse
  | .option name none :: .plain value :: rest =>
    readFrom (options.set name (some value)) astray rest
  | .option _ none :: _ => .misuse

/-- Reads a command line. -/
def read (defaultConfig : String) (args : List String) : Reading :=
  match words? args with
  | some words => readFrom { config := some defaultConfig } false words
  | none => .misuse

end Options

end VitaeShell
