import VitaeShell.Resume.Validation
import VitaeShell.Text.Utf8
import VitaeShell.Yaml.Graph
import VitaeShell.Yaml.Moment

/-!
# YAML values

The values that a YAML document carries. A collection is known by the number of its node, so that
it can be in several places and even contain itself; a `Value` holds the collections of its document
along with it.

Any value but a collection can be the key of a mapping; numbers and truth values that are equal are
one key (`Datum.sameKey`).
-/

namespace VitaeShell.Yaml

/-- A value of a document. -/
inductive Datum where
  | null
  | bool (value : Bool)
  | int (value : Int)
  | float (value : Binary64)
  /-- What is no number, in another spelling than `.nan`. It equals nothing but itself. -/
  | nan (node : NodeId)
  | text (value : String)
  | bytes (value : List UInt8)
  | moment (value : Moment)
  /-- A key with its value, as a part of an ordered mapping. -/
  | pair (key value : Datum)
  /-- The collection of a node. -/
  | collection (node : NodeId)
deriving DecidableEq, Repr

/-- The values in a collection. -/
inductive Collection where
  | list (items : List Datum)
  | mapping (entries : List (Datum × Datum))
  | set (members : List Datum)
deriving DecidableEq, Repr

namespace Collection

/-- Whether nothing is in a collection. -/
def isEmpty : Collection → Bool
  | .list items => items.isEmpty
  | .mapping entries => entries.isEmpty
  | .set members => members.isEmpty

end Collection

namespace Datum

/-! ### Keys -/

/-- The number that a value is, truth values being one and zero. -/
def number? : Datum → Option Binary64
  | .bool b => some (.ofInt (if b then 1 else 0))
  | .int n => some (.ofInt n)
  | .float x => some x
  | _ => none

/-- The whole number that a value is. -/
def wholeNumber? : Datum → Option Int
  | .bool b => some (if b then 1 else 0)
  | .int n => some n
  | .float x => x.toInt?
  | _ => none

/-- Whether two keys are one. Numbers are compared by value, whatever their form. -/
def sameKey : Datum → Datum → Bool
  | .null, .null => true
  | .text a, .text b => a = b
  | .bytes a, .bytes b => a = b
  | .moment a, .moment b => a.same b
  | .nan a, .nan b => a = b
  | a, b =>
    match a.wholeNumber?, b.wholeNumber? with
    | some m, some n => m = n
    | none, none => a.number?.isSome && a.number? == b.number?
    | _, _ => false

/-- Sets a key of a mapping: an old key keeps its place, a new one goes last. -/
def setEntry (key value : Datum) : List (Datum × Datum) → List (Datum × Datum)
  | [] => [(key, value)]
  | (other, old) :: rest =>
    if other.sameKey key then (other, value) :: rest else (other, old) :: setEntry key value rest

/-- The mapping that a list of settings leaves behind. -/
def ofSettings (settings : List (Datum × Datum)) : List (Datum × Datum) :=
  settings.foldl (fun entries setting => setEntry setting.1 setting.2 entries) []

/-- The value at a text key of a mapping. -/
def textEntry? (name : String) (entries : List (Datum × Datum)) : Option Datum :=
  (entries.find? fun entry => entry.1.sameKey (.text name)).map (·.2)

/-! ### Display -/

/-- A byte as it is shown between quotes. -/
def displayByte (quote : Char) (b : UInt8) : List Char :=
  let c := Char.ofNat b.toNat
  Text.quotedChar (fun c => 0x20 ≤ c.toNat && c.toNat < 0x7f) quote c

/-- A run of bytes as it is shown. -/
def displayBytes (bytes : List UInt8) : String :=
  let quote := Text.quoteFor (bytes.map fun b => Char.ofNat b.toNat)
  String.ofList ('b' :: quote :: bytes.flatMap (displayByte quote) ++ [quote])

/-- A key as it is shown inside a message. That a number of too many digits would keep the message
from being shown is left out. -/
def displayKey : Datum → String
  | .null => "None"
  | .bool value => if value then "True" else "False"
  | .int value => toString value
  | .float value => value.toText
  | .nan _ => Binary64.nan.toText
  | .text value => Text.quoted value
  | .bytes value => displayBytes value
  | .moment value => value.display
  | _ => ""

end Datum

/-! ### Values in their document -/

/-- A value with the collections of its document, each in the place of its number. -/
structure Value where
  datum : Datum
  collections : Array Collection := #[]
deriving DecidableEq, Repr

namespace Value

/-- A text on its own. -/
def ofText (text : String) : Value :=
  { datum := .text text }

/-- Another value of the same document. -/
def beside (value : Value) (datum : Datum) : Value :=
  { value with datum := datum }

/-- The collection that a value is. -/
def collection? (value : Value) : Option Collection :=
  match value.datum with
  | .collection node => value.collections[node]?
  | _ => none

/-- Whether a value is neither null, false, zero nor empty. -/
def isSubstantial (value : Value) : Bool :=
  match value.datum with
  | .null => false
  | .bool value => value
  | .int value => value ≠ 0
  | .float value => !value.isZero
  | .text value => value ≠ ""
  | .bytes value => !value.isEmpty
  | .collection _ => value.collection?.any (!·.isEmpty)
  | _ => true

instance : Inspectable Value where
  shape value :=
    match value.datum with
    | .null => .absent
    | .text text => .text text
    | .bytes bytes =>
      match Text.decodeUtf8? bytes with
      | some cs => .text (String.ofList cs)
      | none => .brokenText
    | .collection _ =>
      match value.collection? with
      | some (.list items) => .list (items.map value.beside)
      | some (.set members) => .list (members.map value.beside)
      | some (.mapping entries) =>
        .record fun name => (Datum.textEntry? name entries).map value.beside
      | none => .other
    | _ => .other

end Value

end VitaeShell.Yaml
