import VitaeShell.Template.Page.Collection
import VitaeShell.Template.Page.Kind
import VitaeShell.Template.Page.Number
import VitaeShell.Template.Page.Operation
import VitaeShell.Template.Page.Text

/-!
# Kinds

The kinds of things that the fields of a template lead to. A kind has a manual (`Kind.pages`) and is
made from another kind, whose manual counts for its things as well (`Kind.find?`).
-/

namespace VitaeShell.Template

/-- A kind of things. -/
inductive Kind where
  | text
  /-- The kind that all others are made from. -/
  | any
  | kind
  | whole
  | truth
  | group
  | nothing
  | table
  /-- The contents of a kind. -/
  | contents
  | operation
  | hook
  /-- Operations, hooks and the like of a kind that are on no thing yet. -/
  | operationOfKind
  | hookOfKind
  | operationOnKind
  | traitOfKind
  | slotOfKind
  /-- Operations that need no thing. -/
  | loose
  /-- Kinds with an argument. -/
  | special
deriving DecidableEq, Repr

namespace Kind

/-- The name of a kind. -/
def name : Kind → String
  | text => "str"
  | any => "object"
  | kind => "type"
  | whole => "int"
  | truth => "bool"
  | group => "tuple"
  | nothing => "NoneType"
  | table => "dict"
  | contents => "mappingproxy"
  | operation => "builtin_function_or_method"
  | hook => "method-wrapper"
  | operationOfKind => "method_descriptor"
  | hookOfKind => "wrapper_descriptor"
  | operationOnKind => "classmethod_descriptor"
  | traitOfKind => "getset_descriptor"
  | slotOfKind => "member_descriptor"
  | loose => "staticmethod"
  | special => "GenericAlias"

/-- Where a kind is at home. -/
def home : Kind → String
  | special => "types"
  | _ => "builtins"

/-- The name of a kind with its home, unless that is the common one. -/
def fullName : Kind → String
  | special => "types.GenericAlias"
  | k => k.name

/-- A kind as it is shown. -/
def display (k : Kind) : String :=
  "<class '" ++ k.fullName ++ "'>"

/-- The kinds that a kind is made from, the nearest one first. -/
def ancestors : Kind → List Kind
  | any => []
  | truth => [whole, any]
  | _ => [any]

/-- The kind itself and those that it is made from. -/
def lineage (k : Kind) : List Kind :=
  k :: k.ancestors

/-! ### Manuals -/

/-- The manual of a kind. -/
def pages : Kind → List (String × Page)
  | text => Page.ofText
  | any => Page.ofAny
  | kind => Page.ofKind
  | whole => Page.ofWhole
  | truth => Page.ofTruth
  | group => Page.ofGroup
  | nothing => Page.ofNothing
  | table => Page.ofTable
  | contents => Page.ofContents
  | operation => Page.ofOperation
  | hook => Page.ofHook
  | operationOfKind => Page.ofOperationOfKind
  | hookOfKind => Page.ofHookOfKind
  | operationOnKind => Page.ofOperationOnKind
  | traitOfKind => Page.ofTraitOfKind
  | slotOfKind => Page.ofSlotOfKind
  | loose => Page.ofLoose
  | special => Page.ofSpecial

/-- The page for a name that counts for the things of a kind, and the kind whose manual has it. -/
def find? (k : Kind) (name : String) : Option (Kind × Page) :=
  k.lineage.findSome? fun origin => (origin.pages.lookup name).map (Prod.mk origin)

/-- How things of a kind are made, as far as it is said. -/
def call? : Kind → Option String
  | any => some "()"
  | group => some "(iterable=(), /)"
  | _ => none

/-- Whether a kind takes an argument in square brackets. -/
def takesArgument (k : Kind) : Bool :=
  k = kind || (k.pages.lookup "__class_getitem__").isSome

/-! ### Sizes -/

/-- What a thing of a kind takes up. -/
structure Size where
  /-- The room for the thing itself. -/
  basic : Nat
  /-- The room for each item in it. -/
  item : Nat
  /-- The marks of the kind, as the bits of a number. -/
  marks : Nat
  /-- Where a table of further parts is kept; zero if there is none. -/
  table : Nat
  /-- Where references that do not count are kept; zero if there are none. -/
  references : Nat

/-- The size of the things of a kind. -/
def size : Kind → Size
  | text => ⟨80, 0, 273159424, 0, 0⟩
  | any => ⟨16, 0, 529664, 0, 0⟩
  | kind => ⟨904, 40, 2148031744, 264, 368⟩
  | whole => ⟨24, 4, 21501184, 0, 0⟩
  | truth => ⟨32, 4, 21500160, 0, 0⟩
  | group => ⟨24, 8, 71849248, 0, 0⟩
  | nothing => ⟨16, 0, 528640, 0, 0⟩
  | table => ⟨48, 0, 541611328, 0, 0⟩
  | contents => ⟨24, 0, 545088, 0, 0⟩
  | operation => ⟨56, 0, 547200, 0, 40⟩
  | hook => ⟨32, 0, 545152, 0, 0⟩
  | operationOfKind => ⟨56, 0, 678272, 0, 0⟩
  | hookOfKind => ⟨56, 0, 676224, 0, 0⟩
  | operationOnKind => ⟨56, 0, 545152, 0, 0⟩
  | traitOfKind => ⟨48, 0, 545152, 0, 0⟩
  | slotOfKind => ⟨48, 0, 545152, 0, 0⟩
  | loose => ⟨32, 0, 546048, 24, 0⟩
  | special => ⟨64, 0, 548096, 0, 40⟩

end Kind

end VitaeShell.Template
