import VitaeShell.Payload
import VitaeShell.Screen

/-!
# Grids

The entries of a directory in columns of one width, as many as fit. A slash follows the name of a
directory, and nothing the last entry of a row.
-/

namespace VitaeShell

/-- What keeps an entry from being drawn: its name is no text. -/
inductive GridFault where
  | nameNotText
deriving DecidableEq, Repr

/-- A name on the screen, and whether it is a directory's. -/
structure Label where
  text : String
  isDirectory : Bool
deriving DecidableEq, Repr

namespace Label

/-- The label of an entry. -/
def ofItem (item : GridItem) : Except GridFault Label :=
  let isDirectory := item.kind.equals (.text directoryKind)
  match item.name with
  | .text name => .ok ⟨if isDirectory then name ++ "/" else name, isDirectory⟩
  | _ => .error .nameNotText

/-- The colours of a label. -/
def codes (label : Label) : List Code :=
  if label.isDirectory then [.blue, .bright] else [.white]

/-- A row of labels, all but the last one padded to a width. -/
def row (width : Nat) : List Label → Row
  | [] => []
  | [label] => [⟨label.codes, label.text⟩]
  | label :: rest => ⟨label.codes, padRight width label.text⟩ :: row width rest

end Label

/-- Cuts a list into pieces of `more + 1` items; the last piece may be shorter. -/
def cutRows {α : Type} (more : Nat) : List α → List (List α)
  | [] => []
  | item :: rest => (item :: rest.take more) :: cutRows more (rest.drop more)
termination_by items => items.length
decreasing_by simp only [List.length_drop, List.length_cons]; omega

namespace Grid

/-- The width of a column: two more than the longest label. -/
def columnWidth (labels : List Label) : Nat :=
  (labels.map (·.text.length)).foldl max 0 + 2

/-- The number of columns that fit, but at least one. -/
def perRow (width : Int) (columnWidth : Nat) : Nat :=
  max 1 (width / columnWidth).toNat

/-- Labels in columns. -/
def layout (width : Int) (labels : List Label) : Screen :=
  let column := columnWidth labels
  (cutRows (perRow width column - 1) labels).map (Label.row column)

/-- The drawing of a grid. -/
def draw (width : Int) (items : List GridItem) : Except GridFault Screen :=
  if items.isEmpty then .ok (Screen.coloured .grey "(empty)")
  else (items.mapM Label.ofItem).map (layout width)

end Grid

end VitaeShell
