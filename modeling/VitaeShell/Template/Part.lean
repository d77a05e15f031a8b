import VitaeShell.Template.Kind
import VitaeShell.Text.Quoted

/-!
# What the fields of a template lead to

A field of a template starts at a text and may go on to its characters by their places
(`Part.item`), and to other things that belong to it by their names (`Part.member`), such as its
kind. A name is looked for in the manuals of the kind. All that fields lead to can be shown
(`Part.display`).
-/

namespace VitaeShell.Template

/-- What a field leads to. -/
inductive Part where
  | text (value : List Char)
  | whole (n : Nat)
  | truth (b : Bool)
  | nothing
  | kind (k : Kind)
  | group (parts : List Part)
  /-- A table in which nothing is. -/
  | noEntries
  /-- What a kind brings along itself. -/
  | contents (k : Kind)
  /-- An operation on something. -/
  | operation (name : String) (page : Page) (on : Part)
  /-- A hook of something, and the kind that it is from. -/
  | hook (origin : Kind) (name : String) (on : Part)
  /-- Something that a kind brings along, which is on no thing yet. -/
  | ofKind (origin : Kind) (name : String) (page : Page)
  /-- A kind with an argument. -/
  | special (k : Kind) (argument : Part)
deriving Repr

namespace Part

/-- The text of a string. -/
def ofString (s : String) : Part :=
  .text s.toList

/-- The text of a string, or nothing. -/
def ofOption : Option String → Part
  | some s => ofString s
  | none => .nothing

/-- The kind of a part. -/
def kindOf : Part → Kind
  | .text _ => .text
  | .whole _ => .whole
  | .truth _ => .truth
  | .nothing => .nothing
  | .kind _ => .kind
  | .group _ => .group
  | .noEntries => .table
  | .contents _ => .contents
  | .operation _ _ _ => .operation
  | .hook _ _ _ => .hook
  | .ofKind _ _ .hook => .hookOfKind
  | .ofKind _ _ (.operationOnKind _ _) => .operationOnKind
  | .ofKind _ _ (.loose _ _) => .loose
  | .ofKind _ _ (.trait _) => .traitOfKind
  | .ofKind _ _ .slot => .slotOfKind
  | .ofKind _ _ _ => .operationOfKind
  | .special _ _ => .special

/-! ### Traits -/

/-- What is said about a kind. -/
def manual (k : Kind) : Part :=
  match k, k.pages.lookup "__doc__" with
  | .kind, _ =>
    ofString "type(object) -> the object's type\ntype(name, bases, dict, **kwds) -> a new type"
  | _, some (.value lines) => ofOption (Page.text? lines)
  | _, some page => .ofKind k "__doc__" page
  | _, none => .nothing

/-- What is found out about a kind. -/
def traitOfKind? (k : Kind) : String → Option Part
  | "__name__" | "__qualname__" => some (ofString k.name)
  | "__module__" => some (ofString k.home)
  | "__base__" => some ((k.ancestors.head?.map Part.kind).getD .nothing)
  | "__bases__" => some (.group ((k.ancestors.take 1).map .kind))
  | "__mro__" => some (.group (k.lineage.map .kind))
  | "__dict__" => some (.contents k)
  | "__doc__" => some (manual k)
  | "__text_signature__" => some (ofOption k.call?)
  | "__basicsize__" => some (.whole k.size.basic)
  | "__itemsize__" => some (.whole k.size.item)
  | "__flags__" => some (.whole k.size.marks)
  | "__dictoffset__" => some (.whole k.size.table)
  | "__weakrefoffset__" => some (.whole k.size.references)
  | _ => none

/-- What is found out about a whole number. -/
def traitOfWhole? (n : Nat) : String → Option Part
  | "real" | "numerator" => some (.whole n)
  | "imag" => some (.whole 0)
  | "denominator" => some (.whole 1)
  | _ => none

/-- What is found out about anything that has a page, a kind being at home in `origin`. -/
def traitOfPage? (origin name : String) (page : Page) : String → Option Part
  | "__name__" => some (ofString name)
  | "__qualname__" => some (ofString (origin ++ "." ++ name))
  | "__doc__" => some (ofOption (page.words? name))
  | "__text_signature__" => some (ofOption (page.call? name))
  | _ => none

/-- The name of the kind of which an operation on something counts as a part. -/
def familyOf : Part → String
  | .kind k => k.name
  | part => part.kindOf.name

/-- What is found out about a part under a name. -/
def trait? (part : Part) (asked : String) : Option Part :=
  match part, asked with
  | _, "__class__" => some (.kind part.kindOf)
  | .kind k, _ => traitOfKind? k asked
  | .whole n, _ => traitOfWhole? n asked
  | .truth b, _ => traitOfWhole? (if b then 1 else 0) asked
  | .operation _ (.loose _ _) _, "__self__" => some .nothing
  | .operation _ _ on, "__self__" | .hook _ _ on, "__self__" => some on
  | .operation _ _ _, "__module__" => some .nothing
  | .operation name page on, _ => traitOfPage? on.familyOf name page asked
  | .ofKind origin name (.loose call lines), "__func__"
  | .ofKind origin name (.loose call lines), "__wrapped__" =>
    some (.operation name (.loose call lines) (.kind origin))
  | .ofKind _ _ (.loose _ _), "__isabstractmethod__" => some (.truth false)
  | .ofKind _ _ (.loose _ _), "__dict__" => some .noEntries
  | .hook origin _ _, "__objclass__" | .ofKind origin _ _, "__objclass__" => some (.kind origin)
  | .hook origin name _, _ => traitOfPage? origin.name name .hook asked
  | .ofKind origin name page, _ => traitOfPage? origin.name name page asked
  | .special k _, "__origin__" => some (.kind k)
  | .special _ argument, "__args__" => some (.group [argument])
  | .special _ _, "__parameters__" => some (.group [])
  | .special _ _, "__unpacked__" => some (.truth false)
  | .special _ _, "__typing_unpacked_tuple_args__" => some .nothing
  | _, _ => none

/-! ### Members -/

/-- What a page of a kind's manual is for a part. -/
def bound? (part : Part) (origin : Kind) (name : String) (page : Page) : Option Part :=
  match page with
  | .hook => some (.hook origin name part)
  | .operation _ _ => some (.operation name page part)
  | .operationOnKind _ _ => some (.operation name page (.kind part.kindOf))
  | .maker | .loose _ _ => some (.operation name page (.kind origin))
  | .trait _ | .slot => part.trait? name
  | .value lines => some (ofOption (Page.text? lines))

/-- What a page of a manual is for a kind that takes it for its things. -/
def unbound (k origin : Kind) (name : String) (page : Page) : Part :=
  match page with
  | .hook | .operation _ _ | .trait _ | .slot => .ofKind origin name page
  | .operationOnKind _ _ => .operation name page (.kind k)
  | .maker | .loose _ _ => .operation name page (.kind origin)
  | .value lines => ofOption (Page.text? lines)

/-- What belongs to a kind under a name: what is found out about it comes first, then what it has
for its things, and then what it has as a thing itself. -/
def memberOfKind? (k : Kind) (name : String) : Option Part :=
  match Kind.kind.find? name, k.find? name with
  | some (origin, .trait lines), _ => (Part.kind k).bound? origin name (.trait lines)
  | some (origin, .slot), _ => (Part.kind k).bound? origin name .slot
  | _, some (origin, page) => some (unbound k origin name page)
  | some (origin, page), none => (Part.kind k).bound? origin name page
  | none, none => none

/-- What belongs to a thing under a name. -/
def memberOfThing? (part : Part) (name : String) : Option Part :=
  (part.kindOf.find? name).bind fun (origin, page) => part.bound? origin name page

/-- The names by which a kind with an argument has members of its own. -/
def specialNames : List String :=
  ["__class__", "__origin__", "__args__", "__unpacked__", "__parameters__",
    "__typing_unpacked_tuple_args__", "__mro_entries__", "__reduce_ex__", "__reduce__",
    "__copy__", "__deepcopy__"]

/-- What belongs to a part under a name. A kind with an argument mostly has the members of the
kind. -/
def member? (part : Part) (name : String) : Option Part :=
  match part with
  | .kind k => memberOfKind? k name
  | .special k _ =>
    if specialNames.contains name then part.memberOfThing? name else memberOfKind? k name
  | _ => part.memberOfThing? name

/-! ### Items -/

/-- Why there is no item. -/
inductive ItemFault where
  /-- The place is beyond the end. -/
  | outOfRange
  /-- There is no entry of this name. -/
  | noEntry
  /-- The part has no items, or they are not found in this way. -/
  | notAnIndex
deriving DecidableEq, Repr

/-- What stands at a place of a list. -/
def at? (parts : List Part) : Option Nat → Except ItemFault Part
  | none => .error .notAnIndex
  | some n =>
    match parts[n]? with
    | some part => .ok part
    | none => .error .outOfRange

/-- What is in the contents of a kind under a name. -/
def entry (k : Kind) (name : String) : Except ItemFault Part :=
  match k.pages.lookup name with
  | some (.loose call lines) => .ok (.ofKind k name (.loose call lines))
  | some (.operationOnKind call lines) => .ok (.ofKind k name (.operationOnKind call lines))
  | some page => .ok (unbound k k name page)
  | none => .error .noEntry

/-- What is in a part at `index`, which has been given as `words`. -/
def item (part : Part) (words : List Char) (index : Option Nat) : Except ItemFault Part :=
  match part with
  | .text value => at? (value.map fun c => .text [c]) index
  | .group parts => at? parts index
  | .contents k => if index.isSome then .error .noEntry else entry k (String.ofList words)
  | .noEntries => .error .noEntry
  | .kind k =>
    if k.takesArgument then .ok (.special k ((index.map Part.whole).getD (.text words)))
    else .error .notAnIndex
  | _ => .error .notAnIndex

/-! ### Display -/

/-- The place at which a thing is kept, which says nothing about it. -/
def place : String := "0x7f0000000000"

/-- An operation on something of a kind as it is shown. -/
def displayOperation (name : String) (k : Kind) : String :=
  "<built-in method " ++ name ++ " of " ++ k.fullName ++ " object at " ++ place ++ ">"

/-- Something that a kind brings along as it is shown, where it is on no thing yet. -/
def displayOfKind (origin : Kind) (name : String) (page : Page) : String :=
  let about (what : String) : String :=
    "<" ++ what ++ " '" ++ name ++ "' of '" ++ origin.fullName ++ "' objects>"
  match page with
  | .hook => about "slot wrapper"
  | .trait _ => about "attribute"
  | .slot => about "member"
  | .loose _ _ => "<staticmethod(" ++ displayOperation name .kind ++ ")>"
  | _ => about "method"

/-- An entry in the contents of a kind as it is shown. -/
def displayEntry (k : Kind) (name : String) (page : Page) : String :=
  match page with
  | .maker => displayOperation name .kind
  | .value lines => ((Page.text? lines).map Text.quoted).getD "None"
  | page => displayOfKind k name page

/-- The contents of a kind in braces. -/
def displayEntries (k : Kind) : String :=
  let entries := k.pages.map fun (name, page) =>
    Text.quoted name ++ ": " ++ displayEntry k name page
  "\x7b" ++ String.intercalate ", " entries ++ "\x7d"

mutual

/-- A part as it is shown where no text is asked for. -/
def display : Part → String
  | .text value => Text.quoted (String.ofList value)
  | .whole n => toString n
  | .truth b => if b then "True" else "False"
  | .nothing => "None"
  | .kind k => k.display
  | .group [part] => "(" ++ part.display ++ ",)"
  | .group parts => "(" ++ String.intercalate ", " (displayAll parts) ++ ")"
  | .noEntries => "\x7b\x7d"
  | .contents k => "mappingproxy(" ++ displayEntries k ++ ")"
  | .operation name _ on => displayOperation name on.kindOf
  | .hook _ name on =>
    "<method-wrapper '" ++ name ++ "' of " ++ on.kindOf.fullName ++ " object at " ++ place ++ ">"
  | .ofKind origin name page => displayOfKind origin name page
  | .special k argument => k.name ++ "[" ++ argument.display ++ "]"

/-- Parts as they are shown. -/
def displayAll : List Part → List String
  | [] => []
  | part :: rest => part.display :: displayAll rest

end

/-- The text that a part is, or that it is shown as. -/
def words : Part → List Char
  | .text value => value
  | .contents k => (displayEntries k).toList
  | part => part.display.toList

end Part

end VitaeShell.Template
