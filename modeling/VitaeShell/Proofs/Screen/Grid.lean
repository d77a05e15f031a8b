import Mathlib.Data.List.Forall2
import VitaeShell.Proofs.Screen.Search
import VitaeShell.Screen.Grid

/-!
# Grids on the screen

The labels of a grid are cut into rows, as many to a row as there are columns, and in a row each
label but the last one is filled up with spaces to the width of a column. So the label with a number
begins that many columns from the left, and the row ends where its last label ends (`IsSpread`). A
column is wider than any label, which leaves room between two of them; and where more than one label
stands in a row, as many columns fit the screen.

## Main results

* `flatten_cutRows`, `length_of_mem_cutRows`, `length_of_mem_dropLast_cutRows`: the rows hold the
  labels in order, each row but the last one the same number of them.
* `isSpread_row`: where the labels of a row stand.
* `IsSpread.length_le`: a row fits.
* `Grid.columns_draw`: what the rows of a grid say.
-/

namespace VitaeShell

/-! ### Cutting into rows -/

section CutRows

variable {α : Type}

/-- Rows are cut without losing an item. -/
theorem flatten_cutRows (more : Nat) (items : List α) : (cutRows more items).flatten = items := by
  fun_induction cutRows more items with
  | case1 => rfl
  | case2 item rest ih => rw [List.flatten_cons, ih, List.cons_append, List.take_append_drop]

/-- No row is empty, and none has more items than fit. -/
theorem length_of_mem_cutRows (more : Nat) (items : List α) :
    ∀ row ∈ cutRows more items, row ≠ [] ∧ row.length ≤ more + 1 := by
  fun_induction cutRows more items with
  | case1 => simp
  | case2 item rest ih =>
      rw [List.forall_mem_cons]
      refine ⟨⟨List.cons_ne_nil _ _, ?_⟩, ih⟩
      rw [List.length_cons, List.length_take]
      omega

/-- Every row but the last one is full. -/
theorem length_of_mem_dropLast_cutRows (more : Nat) (items : List α) :
    ∀ row ∈ (cutRows more items).dropLast, row.length = more + 1 := by
  fun_induction cutRows more items with
  | case1 => simp
  | case2 item rest ih =>
      by_cases hlast : rest.drop more = []
      · rw [hlast, cutRows]
        simp
      · -- where something is left for another row, this one has taken all it can
        have hfull : more ≤ rest.length := by
          by_contra hshort
          exact hlast (List.drop_eq_nil_of_le (by omega))
        obtain ⟨next, others, hnext⟩ := List.exists_cons_of_ne_nil hlast
        have hne : cutRows more (rest.drop more) ≠ [] := by
          rw [hnext, cutRows]
          exact List.cons_ne_nil _ _
        rw [List.dropLast_cons_of_ne_nil hne, List.forall_mem_cons]
        refine ⟨?_, ih⟩
        rw [List.length_cons, List.length_take_of_le hfull]

/-- Where rows are cut does not depend on what the items are. -/
theorem cutRows_map {β : Type} (f : α → β) (more : Nat) (items : List α) :
    cutRows more (items.map f) = (cutRows more items).map (List.map f) := by
  fun_induction cutRows more items with
  | case1 => rw [List.map_nil, cutRows, List.map_nil]
  | case2 item rest ih =>
      rw [List.map_cons, cutRows, ← List.map_drop, ih, ← List.map_take]
      rfl

end CutRows

/-! ### Rows of labels -/

/-- Labels are **spread** over a text if each begins as many columns from its start as labels stand
before it, spaces fill what is left of its column, and the last one ends the text. -/
structure IsSpread (width : Nat) (labels : List String) (text : String) : Prop where
  starts : ∀ j label, labels[j]? = some label → label.toList <+: text.toList.drop (j * width)
  fills : ∀ j label, labels[j]? = some label → j + 1 < labels.length →
    (text.toList.drop (j * width)).take width = (padRight width label).toList
  ends : ∀ label, labels.getLast? = some label →
    text.toList.drop ((labels.length - 1) * width) = label.toList

/-- A padded text has the width, unless it is wider to begin with. -/
theorem length_padRight {width : Nat} {text : String} (h : text.length ≤ width) :
    (padRight width text).toList.length = width := by
  rw [padRight, String.toList_append, List.length_append, String.length_toList,
    String.toList_ofList, List.length_replicate]
  omega

/-- A padded text begins with the text. -/
theorem prefix_padRight (width : Nat) (text : String) :
    text.toList <+: (padRight width text).toList := by
  rw [padRight, String.toList_append]
  exact List.prefix_append ..

/-- The last label of a row is not padded. -/
theorem isSpread_singleton (width : Nat) (label : String) : IsSpread width [label] label := by
  constructor
  · intro j other hother
    obtain ⟨rfl, rfl⟩ : j = 0 ∧ label = other := by
      cases j with
      | zero => simpa using hother
      | succ j => simp at hother
    exact ⟨[], by rw [List.append_nil, Nat.zero_mul, List.drop_zero]⟩
  · intro j other hother hmore
    rw [List.length_singleton] at hmore
    omega
  · intro other hother
    obtain rfl : label = other := by simpa using hother
    rw [List.length_singleton, Nat.sub_self, Nat.zero_mul, List.drop_zero]

/-- One more label in front moves the others on by a column. -/
theorem IsSpread.cons {width : Nat} {label : String} {labels : List String} {text : String}
    (h : IsSpread width labels text) (hne : labels ≠ []) (hfits : label.length ≤ width) :
    IsSpread width (label :: labels) (padRight width label ++ text) := by
  have hpad : (padRight width label).toList.length = width := length_padRight hfits
  have hmoved (j : Nat) : (padRight width label ++ text).toList.drop ((j + 1) * width) =
      text.toList.drop (j * width) := by
    rw [String.toList_append, Nat.succ_mul, Nat.add_comm, ← List.drop_drop, List.drop_left' hpad]
  constructor
  · intro j other hother
    cases j with
    | zero =>
        obtain rfl : label = other := by simpa using hother
        rw [Nat.zero_mul, List.drop_zero, String.toList_append]
        exact (prefix_padRight width label).trans (List.prefix_append ..)
    | succ j =>
        rw [hmoved]
        exact h.starts j other (by simpa using hother)
  · intro j other hother hmore
    cases j with
    | zero =>
        obtain rfl : label = other := by simpa using hother
        rw [Nat.zero_mul, List.drop_zero, String.toList_append, List.take_left' hpad]
    | succ j =>
        rw [hmoved]
        refine h.fills j other (by simpa using hother) ?_
        rw [List.length_cons] at hmore
        omega
  · intro other hother
    obtain ⟨next, others, rfl⟩ := List.exists_cons_of_ne_nil hne
    rw [List.length_cons, Nat.add_sub_cancel, List.length_cons, hmoved]
    exact h.ends other (by simpa using hother)

/-- A text over which labels are spread is no longer than its full columns and its last label. -/
theorem IsSpread.length_le {width : Nat} {labels : List String} {text last : String}
    (h : IsSpread width labels text) (hlast : labels.getLast? = some last) :
    text.length ≤ (labels.length - 1) * width + last.length := by
  have hends := congrArg List.length (h.ends last hlast)
  rw [List.length_drop, String.length_toList, String.length_toList] at hends
  omega

/-- **A row of labels** is spread over what it reads as. -/
theorem Label.isSpread_row {width : Nat} {labels : List Label} (hne : labels ≠ [])
    (hfits : ∀ label ∈ labels, label.text.length ≤ width) :
    IsSpread width (labels.map (·.text)) (Label.row width labels).reading := by
  induction labels with
  | nil => exact absurd rfl hne
  | cons label rest ih =>
      rw [List.forall_mem_cons] at hfits
      cases rest with
      | nil => simpa [Label.row, Row.reading] using isSpread_singleton width label.text
      | cons next others =>
          rw [Label.row, Row.reading_cons, List.map_cons]
          · exact (ih (List.cons_ne_nil _ _) hfits.2).cons (by simp) hfits.1
          · simp

/-! ### The drawing of a grid -/

namespace Grid

/-- An **entry**: an item of a grid whose name is a text. -/
structure Entry where
  name : String
  kind : Json

/-- The item that an entry makes. -/
def Entry.toItem (entry : Entry) : GridItem :=
  ⟨.text entry.name, entry.kind⟩

/-- What an entry reads as: its name, and a slash behind it for a directory. -/
def Entry.text (entry : Entry) : String :=
  if entry.kind.equals (.text directoryKind) then entry.name ++ "/" else entry.name

/-- The label of an entry. -/
def Entry.label (entry : Entry) : Label :=
  ⟨entry.text, entry.kind.equals (.text directoryKind)⟩

/-- An entry is labelled with its name, and with a slash if it is a directory. -/
theorem ofItem_toItem (entry : Entry) : Label.ofItem entry.toItem = .ok entry.label := rfl

/-- Entries are drawn in columns that are two wider than the longest of them. -/
theorem draw_toItem {entries : List Entry} (hne : entries ≠ []) (width : Int) :
    draw width (entries.map Entry.toItem) = .ok (layout width (entries.map Entry.label)) := by
  rw [draw, if_neg (by simpa using hne), mapM_map_eq_ok fun label _ => ofItem_toItem label]
  rfl

/-- Several columns are taken only if they fit the screen side by side. -/
theorem mul_le_of_le_perRow {width : Int} {column n : Nat} (hn : 1 < n)
    (h : n ≤ perRow width column) : ((n * column : Nat) : Int) ≤ width := by
  have hcount : (n : Int) ≤ width / column := by
    rw [perRow] at h
    omega
  have hcolumn : (column : Int) ≠ 0 := by
    intro hzero
    rw [hzero, Int.ediv_zero] at hcount
    omega
  calc
    ((n * column : Nat) : Int) = n * column := Int.natCast_mul n column
    _ ≤ width / column * column := Int.mul_le_mul_of_nonneg_right hcount (Int.natCast_nonneg column)
    _ ≤ width := Int.ediv_mul_le width hcolumn

/-- **A row fits** the screen, or it holds a single label. -/
theorem length_le_of_isSpread {width : Int} {longest : Nat} {labels : List String} {text : String}
    (h : IsSpread (longest + 2) labels text) (hne : labels ≠ [])
    (hcount : labels.length ≤ perRow width (longest + 2))
    (hfits : ∀ label ∈ labels, label.length ≤ longest) :
    labels.length = 1 ∨ (text.length : Int) ≤ width := by
  by_cases hone : labels.length = 1
  · exact .inl hone
  · have hpos : 0 < labels.length := List.length_pos_of_ne_nil hne
    have hroom := mul_le_of_le_perRow (by omega) hcount
    have hlast : (labels.getLast hne).length ≤ longest := hfits _ (List.getLast_mem hne)
    have hlength : text.length ≤ labels.length * (longest + 2) := by
      calc
        text.length ≤ (labels.length - 1) * (longest + 2) + (labels.getLast hne).length :=
          h.length_le (List.getLast?_eq_some_getLast hne)
        _ ≤ (labels.length - 1) * (longest + 2) + (longest + 2) := by omega
        _ = labels.length * (longest + 2) := by
          rw [← Nat.succ_mul, Nat.succ_eq_add_one, Nat.sub_add_cancel hpos]
    exact .inr (Int.le_trans (Int.ofNat_le.mpr hlength) hroom)

/-- The rows of a layout are spread over what is read, and fit. -/
theorem forall₂_layout (width : Int) {labels : List Label} {longest : Nat}
    (hcolumn : columnWidth labels = longest + 2)
    (hfits : ∀ label ∈ labels, label.text.length ≤ longest) :
    List.Forall₂ (fun row text => IsSpread (longest + 2) row text ∧
        (row.length = 1 ∨ (text.length : Int) ≤ width))
      ((cutRows (perRow width (longest + 2) - 1) labels).map (List.map (·.text)))
      (layout width labels).plainRows := by
  have hcount : perRow width (longest + 2) - 1 + 1 = perRow width (longest + 2) :=
    Nat.sub_add_cancel (Nat.le_max_left ..)
  simp only [layout, hcolumn, Screen.plainRows, List.map_map]
  rw [List.forall₂_map_left_iff, List.forall₂_map_right_iff, List.forall₂_same]
  intro row hrow
  obtain ⟨hne, hlength⟩ := length_of_mem_cutRows _ labels row hrow
  have hmem : ∀ label ∈ row, label.text.length ≤ longest := by
    intro label hlabel
    refine hfits label ?_
    rw [← flatten_cutRows (perRow width (longest + 2) - 1) labels]
    exact List.mem_flatten_of_mem hrow hlabel
  have hspread := Label.isSpread_row hne fun label hlabel =>
    Nat.le_trans (hmem label hlabel) (Nat.le_add_right longest 2)
  refine ⟨hspread, length_le_of_isSpread hspread (by simpa using hne) ?_ (by simpa using hmem)⟩
  rw [List.length_map]
  omega

/-- **What the rows of a grid say.** Entries can always be drawn. A column is two wider than the
longest label. The labels stand in order in rows of as many as there are columns of that width on
the screen, but at least one; only the last row may have fewer. In a row each label begins where its
column does, with spaces up to the next one, and nothing stands behind the last label. A row of more
than one label is no longer than the screen is wide. -/
theorem columns_draw {entries : List Entry} (hne : entries ≠ []) (width : Int) :
    let labels := entries.map Entry.text
    ∃ screen longest rows, draw width (entries.map Entry.toItem) = .ok screen ∧
      IsGreatest {n | ∃ label ∈ labels, label.length = n} longest ∧
      rows.flatten = labels ∧
      let column := longest + 2
      let count := max 1 (width / column).toNat
      (∀ row ∈ rows, row ≠ [] ∧ row.length ≤ count) ∧
      (∀ row ∈ rows.dropLast, row.length = count) ∧
      List.Forall₂ (fun row text => IsSpread column row text ∧
        (row.length = 1 ∨ (text.length : Int) ≤ width)) rows screen.plainRows := by
  intro labels
  have hgreatest : IsGreatest {n | n ∈ labels.map (·.length)}
      ((labels.map (·.length)).foldl max 0) :=
    isGreatest_foldl_max (by simpa [labels] using hne)
  simp only [List.mem_map] at hgreatest
  generalize hlongest : (labels.map (·.length)).foldl max 0 = longest at hgreatest
  have htexts : (entries.map Entry.label).map (·.text) = labels := by
    rw [List.map_map]
    rfl
  have hcolumn : columnWidth (entries.map Entry.label) = longest + 2 := by
    simp only [columnWidth, ← hlongest, ← htexts, List.map_map, Function.comp_def]
  have hfits : ∀ label ∈ entries.map Entry.label, label.text.length ≤ longest := by
    intro label hlabel
    exact hgreatest.2 ⟨label.text, htexts ▸ List.mem_map_of_mem hlabel, rfl⟩
  have hcount : perRow width (longest + 2) - 1 + 1 =
      max 1 (width / (longest + 2 : Nat)).toNat := Nat.sub_add_cancel (Nat.le_max_left ..)
  have hcut : (cutRows (perRow width (longest + 2) - 1) (entries.map Entry.label)).map
      (List.map (·.text)) = cutRows (perRow width (longest + 2) - 1) labels := by
    rw [← cutRows_map, htexts]
  have hrows := forall₂_layout width hcolumn hfits
  rw [hcut] at hrows
  refine ⟨_, longest, _, draw_toItem hne width, hgreatest, flatten_cutRows _ labels, ?_, ?_, hrows⟩
  · rw [← hcount]
    exact length_of_mem_cutRows _ labels
  · rw [← hcount]
    exact length_of_mem_dropLast_cutRows _ labels

/-- Two directories, a file, and an entry of no known kind. -/
def desk : List Entry :=
  [⟨"skills", .text "directory"⟩, ⟨"about.txt", .text "file"⟩, ⟨"README", .list [.null]⟩,
    ⟨"x", .text "directory"⟩]

/-- Two columns on a screen that has room for three more places. -/
theorem columns_draw_desk :
    desk ≠ [] ∧ ∃ screen rows, draw 25 (desk.map Entry.toItem) = .ok screen ∧
      rows.flatten = ["skills/", "about.txt", "README", "x/"] ∧
      (∀ row ∈ rows.dropLast, row.length = 2) ∧
      List.Forall₂ (fun row text => IsSpread 11 row text ∧
        (row.length = 1 ∨ (text.length : Int) ≤ 25)) rows screen.plainRows := by
  have hne : desk ≠ [] := by simp [desk]
  obtain ⟨screen, longest, rows, hdraw, hlongest, hflatten, -, hfull, hrows⟩ :=
    columns_draw hne 25
  have htexts : desk.map Entry.text = ["skills/", "about.txt", "README", "x/"] := by decide
  rw [htexts] at hlongest hflatten
  obtain rfl : longest = 9 := by
    refine hlongest.unique ⟨⟨_, .tail _ (.head _), by decide⟩, ?_⟩
    rintro _ ⟨label, hlabel, rfl⟩
    revert label
    decide
  exact ⟨hne, screen, rows, hdraw, hflatten, hfull, hrows⟩

end Grid

end VitaeShell
