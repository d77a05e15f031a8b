/-!
# History

The lines that were accepted, and a cursor that walks back through them while a line is recalled. A
walk never leaves the entries: `History.Valid` holds of every history that these operations make.
-/

namespace VitaeShell

/-- The accepted lines, oldest first, and the recalled one; no cursor means a new line. -/
structure History where
  entries : List String := []
  cursor : Option Nat := none
deriving DecidableEq, Repr

namespace History

/-- The history of a new session. -/
def empty : History := {}

/-- Adds a line, and ends the recall. -/
def record (h : History) (line : String) : History :=
  ⟨h.entries ++ [line], none⟩

/-- Recalls the line before, or the last one; the first one stays. -/
def previous (h : History) : Option String × History :=
  if h.entries.isEmpty then (none, h)
  else
    let cursor := match h.cursor with
      | none => h.entries.length - 1
      | some n => n - 1
    (h.entries[cursor]?, { h with cursor := some cursor })

/-- Recalls the line after; after the last one stands an empty new line. -/
def next (h : History) : Option String × History :=
  match h.cursor with
  | none => (none, h)
  | some n =>
    match h.entries[n + 1]? with
    | some line => (some line, { h with cursor := some (n + 1) })
    | none => (some "", { h with cursor := none })

/-- Ends the recall. -/
def resetCursor (h : History) : History :=
  { h with cursor := none }

/-- Forgets all lines, and ends the recall. -/
def clear (h : History) : History :=
  { h with entries := [], cursor := none }

/-- A history whose cursor, if any, stands at an entry. -/
def Valid (h : History) : Prop :=
  ∀ n ∈ h.cursor, n < h.entries.length

end History

end VitaeShell
