import VitaeShell.Proofs.Fallible
import VitaeShell.Proofs.Json.Reading
import VitaeShell.Proofs.Payload.RoundTrip

/-!
# How a reply is read

What an object holds depends on its kind alone and on a few of its fields (`Holds`); any other field
may stand there as well, and the fields may come in any order. A string is taken as a payload in one
way only, as plain text in several, and refused in three (`Outcome`).

Some fields are taken as texts or as whole numbers whatever they hold, and others are taken over as
they are. Either way nothing is in the payload of which something would be lost in writing, unless
it was in the object (`Holds.exact`).

## Main results

* `holds_of_ofObject`: what an object of some kind holds.
* `outcome`: all that reading a string can come to.
* `exact_of_read`: a payload from a text without floating-point numbers is exact.
* `isReadable_of_read`: the line numbers of a search that is read are no longer than are read.
-/

namespace VitaeShell.Reply

variable {value : Json} {name tag : String} {payload : Payload}

/-! ### Fields -/

/-- A field that has to be there is read exactly if it is found. -/
theorem required_eq_ok_iff {found : Json} :
    required value name = .ok found ↔ value.field? name = some found := by
  rw [required]
  split <;> simp_all

/-- A field is one of an object. -/
theorem exists_mem_of_field? {found : Json} (h : value.field? name = some found) :
    ∃ fields, value = .object fields ∧
      (Table.Distinct fields → (name, found) ∈ fields) := by
  cases value with
  | object fields =>
      exact ⟨fields, rfl, fun hdistinct => (Table.lookup_eq_some_iff_mem hdistinct).mp h⟩
  | null | bool _ | int _ | float _ | text _ | list _ => cases h

/-- What an exact object holds is exact. -/
theorem exact_of_field? {found : Json} (h : value.Exact) (hfound : value.field? name = some found) :
    found.Exact := by
  obtain ⟨fields, rfl, hmem⟩ := exists_mem_of_field? hfound
  cases h with
  | object hdistinct hfields => exact hfields (name, found) (hmem hdistinct)

/-- What an object holds that a reader gave, the reader gave as well. -/
theorem given_of_field? {found : Json} (h : value.Given) (hfound : value.field? name = some found) :
    found.Given := by
  obtain ⟨fields, rfl, hmem⟩ := exists_mem_of_field? hfound
  cases h with
  | object hdistinct hfields => exact hfields (name, found) (hmem hdistinct)

/-- A whole number that a value is taken for is no longer than is read. -/
theorem isReadable_of_wholeNumber {n : Int} (h : wholeNumber value = .ok n)
    (hvalue : value.Given) : Json.IsReadable n := by
  cases hvalue with
  | int hreadable =>
      cases h
      exact hreadable
  | bool b =>
      cases h
      cases b
      · exact Json.isReadable_of_lt (k := 1) (by decide) (by decide)
      · exact Json.isReadable_of_lt (k := 1) (by decide) (by decide)
  | @float x hshort =>
      refine hshort n ?_
      cases x with
      | nan | infinite _ => cases h
      | finite _ _ _ =>
          cases h
          rfl
  | text s =>
      rw [wholeNumber] at h
      split at h
      · next hnumeral =>
          cases h
          exact Numeral.natAbs_lt_of_int? hnumeral
      · cases h
  | null | list _ | object _ _ => cases h

/-- So is one that may be left out, if this holds for the one that stands in for it. -/
theorem isReadable_of_numberOr {n default : Int} (h : numberOr value name default = .ok n)
    (hvalue : value.Given) (hdefault : Json.IsReadable default) : Json.IsReadable n := by
  rw [numberOr] at h
  split at h
  · next hfound => exact isReadable_of_wholeNumber h (given_of_field? hvalue hfound)
  · cases h
    exact hdefault

/-- The members of a collection are its items, or texts. -/
theorem mem_members {collection : List Json} (h : members value = .ok collection) {item : Json}
    (hitem : item ∈ collection) :
    (∃ items, value = .list items ∧ item ∈ items) ∨ ∃ text, item = .text text := by
  cases value with
  | list items =>
      cases h
      exact .inl ⟨_, rfl, hitem⟩
  | text s =>
      cases h
      obtain ⟨c, -, rfl⟩ := List.mem_map.mp hitem
      exact .inr ⟨_, rfl⟩
  | object fields =>
      cases h
      obtain ⟨field, -, rfl⟩ := List.mem_map.mp hitem
      exact .inr ⟨_, rfl⟩
  | null | bool _ | int _ | float _ => cases h

/-- The members of an exact collection are exact. -/
theorem exact_of_mem_members {collection : List Json} (h : members value = .ok collection)
    (hvalue : value.Exact) : ∀ item ∈ collection, item.Exact := by
  intro item hitem
  rcases mem_members h hitem with ⟨items, rfl, hitem⟩ | ⟨text, rfl⟩
  · exact Json.exact_list_iff.mp hvalue item hitem
  · exact .text text

/-- Those of a collection that a reader gave are given as well. -/
theorem given_of_mem_members {collection : List Json} (h : members value = .ok collection)
    (hvalue : value.Given) : ∀ item ∈ collection, item.Given := by
  intro item hitem
  rcases mem_members h hitem with ⟨items, rfl, hitem⟩ | ⟨text, rfl⟩
  · cases hvalue with
    | list hitems => exact hitems item hitem
  · exact .text text

/-! ### Records -/

/-- The fields of an entry of a grid. -/
theorem fields_of_gridItem {item : GridItem} (h : gridItem value = .ok item) :
    value.field? "name" = some item.name ∧ value.field? "kind" = some item.kind := by
  rw [gridItem] at h
  obtain ⟨name, hname, h⟩ := exists_of_bind_eq_ok h
  obtain ⟨kind, hkind, h⟩ := exists_of_bind_eq_ok h
  cases h
  exact ⟨required_eq_ok_iff.mp hname, required_eq_ok_iff.mp hkind⟩

/-- The fields of a match. -/
theorem fields_of_grepMatch {found : GrepMatch} (h : grepMatch value = .ok found) :
    value.field? "path" = some found.path ∧
      (∃ number, value.field? "line" = some number ∧ wholeNumber number = .ok found.line) ∧
      value.field? "content" = some found.content ∧
      value.field? "keyword" = some found.keyword := by
  rw [grepMatch] at h
  obtain ⟨path, hpath, h⟩ := exists_of_bind_eq_ok h
  obtain ⟨number, hnumber, h⟩ := exists_of_bind_eq_ok h
  obtain ⟨line, hline, h⟩ := exists_of_bind_eq_ok h
  obtain ⟨content, hcontent, h⟩ := exists_of_bind_eq_ok h
  obtain ⟨keyword, hkeyword, h⟩ := exists_of_bind_eq_ok h
  cases h
  exact ⟨required_eq_ok_iff.mp hpath, ⟨number, required_eq_ok_iff.mp hnumber, hline⟩,
    required_eq_ok_iff.mp hcontent, required_eq_ok_iff.mp hkeyword⟩

/-- An entry of a grid that is read from an exact value is written as one. -/
theorem exact_of_gridItem {item : GridItem} (h : gridItem value = .ok item)
    (hvalue : value.Exact) : (Payload.gridItemJson item).Exact := by
  obtain ⟨hname, hkind⟩ := fields_of_gridItem h
  exact Payload.exact_gridItemJson (exact_of_field? hvalue hname) (exact_of_field? hvalue hkind)

/-- A match that is read from an exact value is written as one. -/
theorem exact_of_grepMatch {found : GrepMatch} (h : grepMatch value = .ok found)
    (hvalue : value.Exact) : (Payload.grepMatchJson found).Exact := by
  obtain ⟨hpath, ⟨number, hnumber, hline⟩, hcontent, hkeyword⟩ := fields_of_grepMatch h
  exact Payload.exact_grepMatchJson (exact_of_field? hvalue hpath)
    (isReadable_of_wholeNumber hline (exact_of_field? hvalue hnumber).given)
    (exact_of_field? hvalue hcontent) (exact_of_field? hvalue hkeyword)

/-! ### Objects -/

/-- The payload that an object of some kind **holds**. -/
inductive Holds (value : Json) : String → Payload → Prop
  | text {content : Json} : value.field? "content" = some content →
      Holds value "text-output" (.text content.display)
  | list {collection : Json} {items : List Json} : value.field? "items" = some collection →
      members collection = .ok items → Holds value "list-output" (.list (items.map Json.display))
  | grid {collection : Json} {records : List Json} {items : List GridItem} :
      value.field? "items" = some collection → members collection = .ok records →
      records.mapM gridItem = .ok items → Holds value "grid-output" (.grid items)
  | grep {collection : Json} {records : List Json} {found : List GrepMatch} :
      value.field? "matches" = some collection → members collection = .ok records →
      records.mapM grepMatch = .ok found → Holds value "grep-output" (.grep found)
  | matrix {rows columns : Int} : numberOr value "lines" Payload.defaultRows = .ok rows →
      numberOr value "columns" Payload.defaultColumns = .ok columns →
      Holds value "matrix-output" (.matrix rows columns)
  | coffee {duration : Int} : numberOr value "duration" Payload.defaultDuration = .ok duration →
      Holds value "coffee-output" (.coffee duration)
  | meltdown : Holds value "system-meltdown-output" .meltdown
  | game {name : Json} : value.field? "game" = some name →
      Holds value "game-output" (.game name.display ((value.field? "state").getD .null))

/-! What is asked of an object, for the kinds that ask for whole numbers. -/

/-- How the object of a search is read. -/
theorem ofObject_grep (value : Json) : ofObject "grep-output" value = (do
    return .grep (← (← members (← required value "matches")).mapM grepMatch)) := rfl

/-- How the object of a matrix is read. -/
theorem ofObject_matrix (value : Json) : ofObject "matrix-output" value = (do
    let rows ← numberOr value "lines" Payload.defaultRows
    let columns ← numberOr value "columns" Payload.defaultColumns
    return .matrix rows columns) := rfl

/-- How the object of a coffee is read. -/
theorem ofObject_coffee (value : Json) : ofObject "coffee-output" value = (do
    return .coffee (← numberOr value "duration" Payload.defaultDuration)) := rfl

/-- **What an object holds**, by its kind. -/
theorem holds_of_ofObject (h : ofObject tag value = .ok payload) : Holds value tag payload := by
  unfold ofObject at h
  split at h
  · next htag =>
      subst htag
      obtain ⟨content, hcontent, h⟩ := exists_of_bind_eq_ok h
      cases h
      exact .text (required_eq_ok_iff.mp hcontent)
  split at h
  · next htag =>
      subst htag
      obtain ⟨collection, hcollection, h⟩ := exists_of_bind_eq_ok h
      obtain ⟨items, hitems, h⟩ := exists_of_bind_eq_ok h
      cases h
      exact .list (required_eq_ok_iff.mp hcollection) hitems
  split at h
  · next htag =>
      subst htag
      obtain ⟨collection, hcollection, h⟩ := exists_of_bind_eq_ok h
      obtain ⟨records, hrecords, h⟩ := exists_of_bind_eq_ok h
      obtain ⟨items, hitems, h⟩ := exists_of_bind_eq_ok h
      cases h
      exact .grid (required_eq_ok_iff.mp hcollection) hrecords hitems
  split at h
  · next htag =>
      subst htag
      obtain ⟨collection, hcollection, h⟩ := exists_of_bind_eq_ok h
      obtain ⟨records, hrecords, h⟩ := exists_of_bind_eq_ok h
      obtain ⟨found, hfound, h⟩ := exists_of_bind_eq_ok h
      cases h
      exact .grep (required_eq_ok_iff.mp hcollection) hrecords hfound
  split at h
  · next htag =>
      subst htag
      obtain ⟨rows, hrows, h⟩ := exists_of_bind_eq_ok h
      obtain ⟨columns, hcolumns, h⟩ := exists_of_bind_eq_ok h
      cases h
      exact .matrix hrows hcolumns
  split at h
  · next htag =>
      subst htag
      obtain ⟨duration, hduration, h⟩ := exists_of_bind_eq_ok h
      cases h
      exact .coffee hduration
  split at h
  · next htag =>
      subst htag
      cases h
      exact .meltdown
  split at h
  · next htag =>
      subst htag
      obtain ⟨name, hname, h⟩ := exists_of_bind_eq_ok h
      cases h
      exact .game (required_eq_ok_iff.mp hname)
  · cases h

/-- **An exact object holds an exact payload.** -/
theorem Holds.exact (h : Holds value tag payload) (hvalue : value.Exact) : payload.Exact := by
  cases h with
  | text _ | list _ _ | meltdown => exact Payload.WellTyped.exact trivial
  | grid hcollection hrecords hitems =>
      have hmembers := exact_of_mem_members hrecords (exact_of_field? hvalue hcollection)
      refine Payload.exact_grid fun item hitem => ?_
      obtain ⟨record, hrecord, hread⟩ := exists_of_mem_of_mapM_eq_ok hitems item hitem
      exact exact_of_gridItem hread (hmembers record hrecord)
  | grep hcollection hrecords hfound =>
      have hmembers := exact_of_mem_members hrecords (exact_of_field? hvalue hcollection)
      refine Payload.exact_grep fun line hline => ?_
      obtain ⟨record, hrecord, hread⟩ := exists_of_mem_of_mapM_eq_ok hfound line hline
      exact exact_of_grepMatch hread (hmembers record hrecord)
  | matrix hrows hcolumns =>
      have hrows := isReadable_of_numberOr hrows hvalue.given
        (Json.isReadable_of_lt (k := 2) (by decide) (by decide))
      have hcolumns := isReadable_of_numberOr hcolumns hvalue.given
        (Json.isReadable_of_lt (k := 2) (by decide) (by decide))
      exact Payload.WellTyped.exact ⟨hrows, hcolumns⟩
  | coffee hduration =>
      have hduration := isReadable_of_numberOr hduration hvalue.given
        (Json.isReadable_of_lt (k := 5) (by decide) (by decide))
      have htyped : (Payload.coffee _).WellTyped := hduration
      exact htyped.exact
  | game hname =>
      have hstate : ((value.field? "state").getD .null).Exact := by
        cases hfield : value.field? "state" with
        | none => exact .null
        | some state => exact exact_of_field? hvalue hfield
      simpa [Payload.Exact, Payload.fields] using ⟨.text _, hstate⟩

/-- The numbers of the lines in a search that a reader gave are no longer than are read. -/
theorem Holds.isReadable_line {found : List GrepMatch} (h : Holds value tag (.grep found))
    (hvalue : value.Given) : ∀ line ∈ found, Json.IsReadable line.line := by
  cases h with
  | grep hcollection hrecords hfound =>
      intro line hline
      obtain ⟨record, hrecord, hread⟩ := exists_of_mem_of_mapM_eq_ok hfound line hline
      have hgiven : record.Given :=
        given_of_mem_members hrecords (given_of_field? hvalue hcollection) record hrecord
      obtain ⟨-, ⟨number, hnumber, hwhole⟩, -⟩ := fields_of_grepMatch hread
      exact isReadable_of_wholeNumber hwhole (given_of_field? hgiven hnumber)

/-! ### Strings -/

/-- All that reading a string **comes to**. -/
inductive Outcome (depth : Nat) (raw : String) : Except ReplyFault Reply → Prop
  | plain : Outcome depth raw (.ok (.plain raw))
  | payload {value : Json} {tag : String} {payload : Payload} :
      Json.decodeWithin depth raw.toList = .ok value → value.field? "type" = some (.text tag) →
      ofObject tag value = .ok payload → Outcome depth raw (.ok (.payload payload))
  | tooDeep : raw.toList.head? = some '\x7b' →
      Json.decodeWithin depth raw.toList = .error .tooDeep → Outcome depth raw (.error .tooDeep)
  | kindIsList {value : Json} {items : List Json} : raw.toList.head? = some '\x7b' →
      Json.decodeWithin depth raw.toList = .ok value → value.field? "type" = some (.list items) →
      Outcome depth raw (.error .kindIsCollection)
  | kindIsObject {value : Json} {fields : List (String × Json)} : raw.toList.head? = some '\x7b' →
      Json.decodeWithin depth raw.toList = .ok value → value.field? "type" = some (.object fields) →
      Outcome depth raw (.error .kindIsCollection)
  | infiniteNumber {value : Json} {tag : String} : raw.toList.head? = some '\x7b' →
      Json.decodeWithin depth raw.toList = .ok value → value.field? "type" = some (.text tag) →
      ofObject tag value = .error .infiniteNumber → Outcome depth raw (.error .infiniteNumber)

/-- **Reading a string** comes to nothing else. -/
theorem outcome (depth : Nat) (raw : String) : Outcome depth raw (readWithin depth raw) := by
  unfold readWithin
  split
  · exact .plain
  · next hopens =>
      rw [not_not] at hopens
      split
      · next hdeep => exact .tooDeep hopens hdeep
      · exact .plain
      · next value hvalue =>
          split
          · next tag htag =>
              split
              · next payload hholds => exact .payload hvalue htag hholds
              · exact .plain
              · next hinfinite => exact .infiniteNumber hopens hvalue htag hinfinite
          · next items hkind => exact .kindIsList hopens hvalue hkind
          · next fields hkind => exact .kindIsObject hopens hvalue hkind
          · exact .plain

/-- A payload is what the object in a string holds. -/
theorem exists_holds_of_read {raw : String} (h : read raw = .ok (.payload payload)) :
    ∃ value tag, Json.decode raw = .ok value ∧ Holds value tag payload := by
  have houtcome := outcome Json.maxDepth raw
  rw [← read, h] at houtcome
  cases houtcome with
  | payload hvalue _ hholds => exact ⟨_, _, hvalue, holds_of_ofObject hholds⟩

/-- **A payload from a text without floating-point numbers is exact.** -/
theorem exact_of_read {raw : String} (h : read raw = .ok (.payload payload))
    (hfloatless : ∀ value, Json.decode raw = .ok value → value.Floatless) : payload.Exact := by
  obtain ⟨value, tag, hvalue, hholds⟩ := exists_holds_of_read h
  exact hholds.exact (Json.exact_of_decodeWithin hvalue (hfloatless value hvalue))

/-- The numbers of the lines in a search that is read are no longer than are read. -/
theorem isReadable_of_read {raw : String} {found : List GrepMatch}
    (h : read raw = .ok (.payload (.grep found))) : ∀ line ∈ found, Json.IsReadable line.line := by
  obtain ⟨value, tag, hvalue, hholds⟩ := exists_holds_of_read h
  exact hholds.isReadable_line (Json.given_of_decodeWithin hvalue)

end VitaeShell.Reply
