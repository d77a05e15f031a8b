/-!
# Ordered tables

A list of named values in which every name has one place. Setting a name that the table holds
replaces the value in its place (`set`); a list of settings leaves the last value of each name at
the place of the first (`ofList`). `List.lookup` reads a table.
-/

namespace VitaeShell.Table

variable {α : Type}

/-- Sets a name: an old name keeps its place, a new one goes last. -/
def set (table : List (String × α)) (name : String) (value : α) : List (String × α) :=
  match table with
  | [] => [(name, value)]
  | (other, old) :: rest =>
    if other = name then (name, value) :: rest else (other, old) :: set rest name value

/-- The table that a list of settings leaves behind. -/
def ofList (settings : List (String × α)) : List (String × α) :=
  settings.foldl (fun table setting => set table setting.1 setting.2) []

/-- The names of a table, in order. -/
def names (table : List (String × α)) : List String :=
  table.map (·.1)

/-- A table in which no name has two places. -/
def Distinct (table : List (String × α)) : Prop :=
  (names table).Nodup

end VitaeShell.Table
