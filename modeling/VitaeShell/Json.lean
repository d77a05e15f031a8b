import VitaeShell.Number.Shortest
import VitaeShell.Text.Quoted

/-!
# JSON values

The values that JSON text carries, with whole numbers kept apart from floating-point ones, and the
form in which a value is shown inside a message (`Json.display`): a text stands as it is, and inside
a list or an object it stands in quotes. Whole numbers are shown in full, as those of a value that
has been read have few enough digits (`Numeral.maxDigits`).
-/

namespace VitaeShell

/-- A JSON value. The fields of an object keep their order. -/
inductive Json where
  | null
  | bool (value : Bool)
  | int (value : Int)
  | float (value : Binary64)
  | text (value : String)
  | list (items : List Json)
  | object (fields : List (String × Json))
deriving Inhabited, Repr

namespace Json

/-! ### Fields of an object -/

/-- The value of a field. -/
def field? (name : String) : Json → Option Json
  | .object fields => fields.lookup name
  | _ => none

/-- The name of a value's kind, as it stands in messages. -/
def kindName : Json → String
  | .null => "NoneType"
  | .bool _ => "bool"
  | .int _ => "int"
  | .float _ => "float"
  | .text _ => "str"
  | .list _ => "list"
  | .object _ => "dict"

/-! ### What counts as nothing -/

/-- Whether a value is neither null, false, zero nor empty. -/
def isSubstantial : Json → Bool
  | .null => false
  | .bool value => value
  | .int value => value ≠ 0
  | .float value => !value.isZero
  | .text value => value ≠ ""
  | .list items => !items.isEmpty
  | .object fields => !fields.isEmpty

/-! ### Display -/

mutual

/-- A value as it is shown inside a list or an object. -/
def displayInside : Json → String
  | .null => "None"
  | .bool value => if value then "True" else "False"
  | .int value => toString value
  | .float value => value.toText
  | .text value => Text.quoted value
  | .list items => "[" ++ String.intercalate ", " (displayItems items) ++ "]"
  | .object fields => "\x7b" ++ String.intercalate ", " (displayFields fields) ++ "\x7d"

/-- The items of a list as they are shown. -/
def displayItems : List Json → List String
  | [] => []
  | item :: rest => displayInside item :: displayItems rest

/-- The fields of an object as they are shown. -/
def displayFields : List (String × Json) → List String
  | [] => []
  | (name, value) :: rest => (Text.quoted name ++ ": " ++ displayInside value) :: displayFields rest

end

/-- A value as it is shown on its own. -/
def display : Json → String
  | .text value => value
  | value => displayInside value

/-! ### Equality -/

mutual

/-- Equality of values, of the same kind and with the fields of objects in the same order. -/
def equals : Json → Json → Bool
  | .null, .null => true
  | .bool a, .bool b => a == b
  | .int a, .int b => a == b
  | .float a, .float b => a == b
  | .text a, .text b => a == b
  | .list a, .list b => equalItems a b
  | .object a, .object b => equalFields a b
  | _, _ => false

/-- `equals`, item by item. -/
def equalItems : List Json → List Json → Bool
  | [], [] => true
  | a :: as, b :: bs => equals a b && equalItems as bs
  | _, _ => false

/-- `equals`, field by field. -/
def equalFields : List (String × Json) → List (String × Json) → Bool
  | [], [] => true
  | (m, a) :: as, (n, b) :: bs => m == n && equals a b && equalFields as bs
  | _, _ => false

end

end Json

end VitaeShell
