import VitaeShell.Table

/-!
# Ordered tables without repetition

A list of settings in which no name comes twice is the table that it leaves behind. In such a table
a name stands for whatever is set under it.

## Main results

* `ofList_eq_self`: settings of different names stay as they are.
* `distinct_ofList`, `mem_of_mem_ofList`: any settings leave a table behind, and nothing else in it.
* `lookup_eq_some_iff_mem`: looking a name up finds exactly what stands under it.
-/

namespace VitaeShell.Table

variable {α : Type}

instance (table : List (String × α)) : Decidable (Distinct table) :=
  inferInstanceAs (Decidable (names table).Nodup)

/-- A name that a table does not hold goes last. -/
theorem set_of_notMem {table : List (String × α)} {name : String} (value : α)
    (h : name ∉ names table) : set table name value = table ++ [(name, value)] := by
  induction table with
  | nil => rfl
  | cons entry table ih =>
      obtain ⟨other, old⟩ := entry
      simp only [names, List.map_cons, List.mem_cons, not_or] at h
      rw [set, if_neg (Ne.symm h.1), ih h.2, List.cons_append]

/-- Settings of new and different names go to the end of a table, in order. -/
theorem foldl_set_eq_append {table settings : List (String × α)}
    (h : Distinct (table ++ settings)) :
    settings.foldl (fun table setting => set table setting.1 setting.2) table =
      table ++ settings := by
  induction settings generalizing table with
  | nil => simp
  | cons setting settings ih =>
      obtain ⟨name, value⟩ := setting
      have hnew : name ∉ names table := by
        intro hname
        rw [Distinct, names, List.map_append, List.nodup_append] at h
        exact h.2.2 name hname name (by simp) rfl
      have hmoved : Distinct ((table ++ [(name, value)]) ++ settings) := by
        simpa using h
      rw [List.foldl_cons, set_of_notMem value hnew, ih hmoved, List.append_assoc]
      rfl

/-- Settings of different names stay as they are. -/
theorem ofList_eq_self {settings : List (String × α)} (h : Distinct settings) :
    ofList settings = settings := by
  have hempty : Distinct ([] ++ settings) := h
  exact foldl_set_eq_append hempty

/-! ### What settings leave behind -/

/-- Setting a name adds it where it is new. -/
theorem names_set (table : List (String × α)) (name : String) (value : α) :
    names (set table name value) =
      if name ∈ names table then names table else names table ++ [name] := by
  induction table with
  | nil => rfl
  | cons entry table ih =>
      obtain ⟨other, old⟩ := entry
      rw [set]
      by_cases hname : other = name
      · simp [hname, names]
      · rw [if_neg hname]
        simp only [names, List.map_cons] at ih ⊢
        rw [ih]
        by_cases hmem : name ∈ table.map (·.1)
        · simp [hmem]
        · simp [hmem, Ne.symm hname]

/-- No name gets a second place. -/
theorem Distinct.set {table : List (String × α)} (h : Distinct table) (name : String) (value : α) :
    Distinct (set table name value) := by
  rw [Distinct, names_set]
  split
  · exact h
  · next hnew =>
      rw [List.nodup_append]
      refine ⟨h, by simp, ?_⟩
      rintro other hother _ hlast rfl
      exact hnew (List.mem_singleton.mp hlast ▸ hother)

/-- Names stay distinct however many values are set. -/
theorem Distinct.foldl_set {table : List (String × α)} (h : Distinct table)
    (settings : List (String × α)) :
    Distinct (settings.foldl (fun table setting => Table.set table setting.1 setting.2) table) := by
  induction settings generalizing table with
  | nil => exact h
  | cons setting settings ih => exact ih (h.set _ _)

/-- What settings leave behind is a table. -/
theorem distinct_ofList (settings : List (String × α)) : Distinct (ofList settings) :=
  have hempty : Distinct ([] : List (String × α)) := List.nodup_nil
  hempty.foldl_set settings

/-- An entry was there before, or is the one that has been set. -/
theorem mem_of_mem_set {table : List (String × α)} {name : String} {value : α}
    {entry : String × α} (h : entry ∈ set table name value) :
    entry ∈ table ∨ entry = (name, value) := by
  induction table with
  | nil => exact .inr (List.mem_singleton.mp h)
  | cons first table ih =>
      obtain ⟨other, old⟩ := first
      rw [set] at h
      split at h
      · rcases List.mem_cons.mp h with rfl | h
        · exact .inr rfl
        · exact .inl (.tail _ h)
      · rcases List.mem_cons.mp h with rfl | h
        · exact .inl (.head _)
        · exact (ih h).imp_left (.tail _)

/-- Or it is one of those that have been set, if there are several. -/
theorem mem_of_mem_foldl_set {table settings : List (String × α)} {entry : String × α}
    (h : entry ∈ settings.foldl (fun table setting => set table setting.1 setting.2) table) :
    entry ∈ table ∨ entry ∈ settings := by
  induction settings generalizing table with
  | nil => exact .inl h
  | cons setting settings ih =>
      rcases ih h with h | h
      · rcases mem_of_mem_set h with h | rfl
        · exact .inl h
        · exact .inr (.head _)
      · exact .inr (.tail _ h)

/-- Nothing is left behind that was not set. -/
theorem mem_of_mem_ofList {settings : List (String × α)} {entry : String × α}
    (h : entry ∈ ofList settings) : entry ∈ settings :=
  (mem_of_mem_foldl_set h).resolve_left List.not_mem_nil

/-! ### Looking names up -/

/-- A name that stands for a value is in the table. -/
theorem mem_names_of_lookup {table : List (String × α)} {name : String} {value : α}
    (h : table.lookup name = some value) : name ∈ names table := by
  obtain ⟨before, after, rfl, -⟩ := List.lookup_eq_some_iff.mp h
  simp [names]

/-- A name that stands for nothing is not in the table. -/
theorem lookup_eq_none_iff {table : List (String × α)} {name : String} :
    table.lookup name = none ↔ name ∉ names table := by
  rw [List.lookup_eq_none_iff, names, List.mem_map, not_exists]
  constructor
  · rintro h entry ⟨hentry, rfl⟩
    simpa using h entry hentry
  · intro h entry hentry
    exact bne_iff_ne.mpr fun heq => h entry ⟨hentry, heq.symm⟩

/-- Another name is looked up further on. -/
theorem lookup_cons_of_ne {name other : String} (h : name ≠ other) (value : α)
    (table : List (String × α)) :
    List.lookup name ((other, value) :: table) = table.lookup name := by
  rw [List.lookup_cons, beq_eq_false_iff_ne.mpr h]

/-- If no name stands twice, looking a name up finds exactly what stands under it. -/
theorem lookup_eq_some_iff_mem {table : List (String × α)} (h : Distinct table) {name : String}
    {value : α} : table.lookup name = some value ↔ (name, value) ∈ table := by
  constructor
  · intro hlookup
    obtain ⟨before, after, rfl, -⟩ := List.lookup_eq_some_iff.mp hlookup
    simp
  · intro hmem
    induction table with
    | nil => cases hmem
    | cons entry rest ih =>
        obtain ⟨other, first⟩ := entry
        obtain ⟨hother, hrest⟩ := List.nodup_cons.mp h
        rcases List.mem_cons.mp hmem with heq | hlater
        · obtain ⟨rfl, rfl⟩ := Prod.mk.inj heq
          exact List.lookup_cons_self
        · have hne : name ≠ other := by
            rintro rfl
            exact hother (List.mem_map.mpr ⟨(name, value), hlater, rfl⟩)
          rw [lookup_cons_of_ne hne]
          exact ih hrest hlater

end VitaeShell.Table
