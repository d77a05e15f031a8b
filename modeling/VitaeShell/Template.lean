import VitaeShell.Template.Layout
import VitaeShell.Template.Part

/-!
# Prompt templates

A template is a text with fields in braces, which are replaced by the one value it is given under a
name. A field may pick a character of the value (`{name[0]}`) or another part of it (`{name.part}`),
quote it (`{name!r}`) and lay it out in a width (`{name:>20}`); the layout may itself hold fields.
Doubled braces stand for themselves.
-/

namespace VitaeShell.Template

/-- Why a template cannot be expanded. -/
inductive Fault where
  /-- The braces, a conversion or a layout are wrong. -/
  | malformed
  /-- A field asks for a value by its place, or for a character beyond the end. -/
  | outOfRange
  /-- A field asks for a value of another name. -/
  | unknownName
  /-- A field asks for a part that is not there. -/
  | noSuchPart
  /-- A character is asked for by something else than a number, or of something else than a text. -/
  | notAnIndex
  /-- Something else than a text or a number is to be laid out. -/
  | notText
  /-- A number is to be laid out as a character, and is none. -/
  | noCharacter
  /-- There is no room for the width of a layout. -/
  | tooWide
deriving DecidableEq, Repr

/-- The number that a whole text is, if it is one. -/
def index? (cs : List Char) : Except Fault (Option Nat) :=
  match number? cs with
  | none => .error .malformed
  | some (some n, []) => .ok (some n)
  | some _ => .ok none

/-! ### Fields -/

/-- A field between its braces. -/
structure Field where
  name : List Char
  conversion : Option Char
  layout : List Char

/-- The name of a field up to the character that ends it, what that is, and what follows. Within
square brackets (`inBrackets`) everything belongs to the name. -/
def fieldName (inBrackets : Bool) : List Char → Except Fault (List Char × Char × List Char)
  | [] => .error .malformed
  | c :: rest => do
    if inBrackets then
      let (name, stop, rest) ← fieldName (c ≠ ']') rest
      return (c :: name, stop, rest)
    else if c = '\x7b' then .error .malformed
    else if c = '\x7d' ∨ c = ':' ∨ c = '!' then return ([], c, rest)
    else
      let (name, stop, rest) ← fieldName (c = '[') rest
      return (c :: name, stop, rest)

/-- The layout of a field up to the brace that closes the field, `depth` more being open, and what
follows. -/
def fieldLayout (depth : Nat) : List Char → Except Fault (List Char × List Char)
  | [] => .error .malformed
  | c :: rest => do
    if c = '\x7d' ∧ depth = 0 then return ([], rest)
    else
      let depth := if c = '\x7b' then depth + 1 else if c = '\x7d' then depth - 1 else depth
      let (layout, rest) ← fieldLayout depth rest
      return (c :: layout, rest)

/-- The field that a text starts with, after its opening brace, and what follows. -/
def readField (cs : List Char) : Except Fault (Field × List Char) := do
  let (name, stop, rest) ← fieldName false cs
  if stop = '\x7d' then return (⟨name, none, []⟩, rest)
  else if stop = ':' then
    let (layout, rest) ← fieldLayout 0 rest
    return (⟨name, none, layout⟩, rest)
  else
    match rest with
    | conversion :: '\x7d' :: rest => return (⟨name, some conversion, []⟩, rest)
    | conversion :: ':' :: rest =>
      let (layout, rest) ← fieldLayout 0 rest
      return (⟨name, some conversion, layout⟩, rest)
    | _ => .error .malformed

/-- The fault of a field that asks for an item that is not there. -/
def Fault.ofItem : Part.ItemFault → Fault
  | .outOfRange => .outOfRange
  | .noEntry => .unknownName
  | .notAnIndex => .notAnIndex

/-- Follows the steps of a name after its first word. -/
def follow : Nat → List Char → Part → Except Fault Part
  | 0, _, _ => .error .malformed
  | _, [], part => .ok part
  | fuel + 1, '.' :: rest, part =>
    let name := rest.takeWhile fun c => c ≠ '.' && c ≠ '['
    if name.isEmpty then .error .malformed
    else
      match part.member? (String.ofList name) with
      | some found => follow fuel (rest.drop name.length) found
      | none => .error .noSuchPart
  | fuel + 1, '[' :: rest, part => do
    let index := rest.takeWhile (· ≠ ']')
    let rest := rest.drop index.length
    if rest.isEmpty then .error .malformed
    else
      let found ← index? index
      if index.isEmpty then .error .malformed
      else follow fuel (rest.drop 1) (← (part.item index found).mapError Fault.ofItem)
  | _, _, _ => .error .malformed

/-- What a field name leads to, where `known` is the one name with a value. -/
def lookUp (known value : List Char) (name : List Char) : Except Fault Part := do
  let first := name.takeWhile fun c => c ≠ '.' && c ≠ '['
  let index ← index? first
  if first.isEmpty || index.isSome then .error .outOfRange
  else if first ≠ known then .error .unknownName
  else follow (name.length + 1) (name.drop first.length) (.text value)

/-- A part as a conversion asks for it. -/
def convert (part : Part) : Option Char → Except Fault Part
  | none => .ok part
  | some 's' => .ok (.text part.words)
  | some 'r' => .ok (.ofString part.display)
  | some 'a' => .ok (.text (part.display.toList.flatMap Text.asciiChar))
  | some _ => .error .malformed

/-! ### Layouts -/

/-- The fault of a field that cannot be laid out. -/
def Fault.ofLayout : LayoutFault → Fault
  | .malformed => .malformed
  | .noCharacter => .noCharacter
  | .tooWide => .tooWide

/-- Something of a usual form as a text lays it out with `put`. -/
def layOutWith (usual : Char) (layout : List Char)
    (put : Layout → Except LayoutFault (List Char)) : Except Fault (List Char) :=
  match Layout.read? usual layout with
  | none => .error .malformed
  | some l => (put l).mapError Fault.ofLayout

/-- A part in a layout, which only texts and numbers take. A truth value counts as a number then. -/
def layOut (layout : List Char) (part : Part) : Except Fault (List Char) :=
  if layout.isEmpty then .ok part.words
  else
    match part with
    | .text value => layOutWith 's' layout (·.ofText value)
    | .whole n => layOutWith 'd' layout (·.ofWhole n)
    | .truth b => layOutWith 'd' layout (·.ofWhole (if b then 1 else 0))
    | _ => .error .notText

/-! ### Expansion -/

/-- How deep fields may stand in layouts. -/
def maxDepth : Nat := 2

/-- The text of a template, in which fields may stand `depth` deep. -/
def expandFrom (known value : List Char) (depth : Nat) : Nat → List Char → Except Fault (List Char)
  | 0, _ => .error .malformed
  | fuel + 1, cs =>
    match depth, cs with
    | 0, _ => .error .malformed
    | _, [] => .ok []
    | _, '\x7b' :: '\x7b' :: rest => do return '\x7b' :: (← expandFrom known value depth fuel rest)
    | _, '\x7d' :: '\x7d' :: rest => do return '\x7d' :: (← expandFrom known value depth fuel rest)
    | _, '\x7d' :: _ => .error .malformed
    | inner + 1, '\x7b' :: rest => do
      let (field, rest) ← readField rest
      let found ← lookUp known value field.name
      let found ← convert found field.conversion
      let layout ←
        if field.layout.contains '\x7b' then expandFrom known value inner fuel field.layout
        else pure field.layout
      let piece ← layOut layout found
      return piece ++ (← expandFrom known value depth fuel rest)
    | _, c :: rest => do return c :: (← expandFrom known value depth fuel rest)

/-- The text of a template whose one field has a name and a value. -/
def expand (template known value : String) : Except Fault String := do
  let cs := template.toList
  let expanded ← expandFrom known.toList value.toList maxDepth (cs.length + 1) cs
  return String.ofList expanded

end VitaeShell.Template
