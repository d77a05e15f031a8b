import VitaeShell.Proofs.Payload.Reading

/-!
# Strings that are refused

A front end takes any string, but for the objects that it refuses (`Refuses`). An object is refused
for its kind if that is a list or an object itself, for a whole number that is infinite where the
object's kind asks for one, and for lists and objects that stand too deep within one another. All
other strings are taken, if not as a payload then as plain text.

The fields of an object are looked at in order, so an infinite number stands against an object only
if nothing in front of it makes the object plain text (`MeetsInfinity`).

## Main results

* `ofObject_eq_infinite_iff`: the objects in which an infinite number is met.
* `read_eq_error_iff`: the strings that are refused, and for what.
-/

namespace VitaeShell.Reply

variable {value : Json} {name tag : String}

/-- An infinite number. -/
def IsInfinite (value : Json) : Prop :=
  ∃ negative, value = .float (.infinite negative)

/-! ### Fields -/

/-- That a field is missing is no infinite number. -/
theorem required_ne_infinite : required value name ≠ .error .infiniteNumber := by
  rw [required]
  split <;> simp

/-- A number is refused as infinite exactly if it is. -/
theorem wholeNumber_eq_infinite_iff :
    wholeNumber value = .error .infiniteNumber ↔ IsInfinite value := by
  cases value with
  | float x =>
      cases x with
      | infinite negative => simp [wholeNumber, IsInfinite]
      | nan | finite _ _ _ =>
          simp only [wholeNumber, IsInfinite]
          split <;> simp
  | text s =>
      simp only [wholeNumber, IsInfinite]
      split <;> simp
  | null | bool _ | int _ | list _ | object _ => simp [wholeNumber, IsInfinite]

/-- A number with a default is refused as infinite exactly if it is there and is infinite. -/
theorem numberOr_eq_infinite_iff {default : Int} :
    numberOr value name default = .error .infiniteNumber ↔
      ∃ number, value.field? name = some number ∧ IsInfinite number := by
  rw [numberOr]
  split
  · next found hfound => simp [hfound, wholeNumber_eq_infinite_iff]
  · next hmissing => simp [hmissing]

/-- That a list is expected is no infinite number. -/
theorem members_ne_infinite : members value ≠ .error .infiniteNumber := by
  cases value <;> simp [members]

/-- Only the items of a list have fields. -/
theorem eq_list_of_members {items : List Json} (h : members value = .ok items) {item found : Json}
    (hitem : item ∈ items) (hfound : item.field? name = some found) : value = .list items := by
  cases value with
  | list members =>
      cases h
      rfl
  | text s =>
      cases h
      obtain ⟨c, -, rfl⟩ := List.mem_map.mp hitem
      cases hfound
  | object fields =>
      cases h
      obtain ⟨field, -, rfl⟩ := List.mem_map.mp hitem
      cases hfound
  | null | bool _ | int _ | float _ => cases h

/-! ### Records -/

/-- Nothing in an item of a grid is refused as an infinite number. -/
theorem gridItem_ne_infinite : gridItem value ≠ .error .infiniteNumber := by
  simp [gridItem, bind_eq_error_iff, required_ne_infinite, pure, Except.pure]

/-- A match is refused for its number, once it has a path. -/
theorem grepMatch_eq_infinite_iff :
    grepMatch value = .error .infiniteNumber ↔
      (∃ path, value.field? "path" = some path) ∧
        ∃ number, value.field? "line" = some number ∧ IsInfinite number := by
  simp [grepMatch, bind_eq_error_iff, required_ne_infinite, required_eq_ok_iff,
    wholeNumber_eq_infinite_iff, pure, Except.pure]

/-- Matches are refused for the first that is no match, if that is for its number. -/
theorem mapM_grepMatch_eq_infinite_iff {records : List Json} :
    records.mapM grepMatch = .error .infiniteNumber ↔
      ∃ before record after, records = before ++ record :: after ∧
        (∀ earlier ∈ before, ∃ found, grepMatch earlier = .ok found) ∧
        (∃ path, record.field? "path" = some path) ∧
        ∃ number, record.field? "line" = some number ∧ IsInfinite number := by
  simp only [mapM_eq_error_iff, grepMatch_eq_infinite_iff]

/-- Nor is anything in all of its items. -/
theorem mapM_gridItem_ne_infinite {records : List Json} :
    records.mapM gridItem ≠ .error .infiniteNumber := by
  simp [mapM_eq_error_iff, gridItem_ne_infinite]

/-! ### Objects -/

/-- An object of some kind in which an infinite number is **met** where the kind asks for a whole
one. -/
inductive MeetsInfinity (value : Json) : String → Prop
  | duration {number : Json} : value.field? "duration" = some number → IsInfinite number →
      MeetsInfinity value "coffee-output"
  | rows {number : Json} : value.field? "lines" = some number → IsInfinite number →
      MeetsInfinity value "matrix-output"
  /-- The rows are a whole number, or left out. -/
  | columns {rows : Int} {number : Json} : numberOr value "lines" Payload.defaultRows = .ok rows →
      value.field? "columns" = some number → IsInfinite number →
      MeetsInfinity value "matrix-output"
  /-- The matches in front of the number are matches. -/
  | line {before after : List Json} {record path number : Json} :
      value.field? "matches" = some (.list (before ++ record :: after)) →
      (∀ earlier ∈ before, ∃ found, grepMatch earlier = .ok found) →
      record.field? "path" = some path → record.field? "line" = some number →
      IsInfinite number → MeetsInfinity value "grep-output"

/-- **Infinite numbers.** An object is refused for a number exactly if an infinite one is met. -/
theorem ofObject_eq_infinite_iff :
    ofObject tag value = .error .infiniteNumber ↔ MeetsInfinity value tag := by
  constructor
  · intro h
    unfold ofObject at h
    -- texts, lists and grids ask for no whole number, nor do the last two kinds
    split at h
    · simp [bind_eq_error_iff, required_ne_infinite, pure, Except.pure] at h
    split at h
    · simp [bind_eq_error_iff, required_ne_infinite, members_ne_infinite, pure, Except.pure] at h
    split at h
    · simp [bind_eq_error_iff, required_ne_infinite, members_ne_infinite,
        mapM_gridItem_ne_infinite, pure, Except.pure] at h
    split at h
    · next htag =>
        subst htag
        simp only [bind_eq_error_iff, required_ne_infinite, members_ne_infinite,
          required_eq_ok_iff, mapM_grepMatch_eq_infinite_iff, false_or, pure, Except.pure,
          reduceCtorEq, and_false, exists_false, or_false] at h
        obtain ⟨collection, hcollection, records, hrecords, before, record, after, rfl, hbefore,
          ⟨path, hpath⟩, number, hnumber, hinfinite⟩ := h
        -- a record with a path is an object, and so the item of a list
        have hlist := eq_list_of_members hrecords (by simp) hpath
        subst hlist
        exact .line hcollection hbefore hpath hnumber hinfinite
    split at h
    · next htag =>
        subst htag
        simp only [bind_eq_error_iff, numberOr_eq_infinite_iff, pure, Except.pure, reduceCtorEq,
          and_false, exists_false, or_false] at h
        rcases h with ⟨number, hnumber, hinfinite⟩ | ⟨rows, hrows, number, hnumber, hinfinite⟩
        · exact .rows hnumber hinfinite
        · exact .columns hrows hnumber hinfinite
    split at h
    · next htag =>
        subst htag
        simp only [bind_eq_error_iff, numberOr_eq_infinite_iff, pure, Except.pure, reduceCtorEq,
          and_false, exists_false, or_false] at h
        obtain ⟨number, hnumber, hinfinite⟩ := h
        exact .duration hnumber hinfinite
    split at h
    · cases h
    split at h
    · simp [bind_eq_error_iff, required_ne_infinite, pure, Except.pure] at h
    · cases h
  · intro h
    cases h with
    | duration hnumber hinfinite =>
        rw [ofObject_coffee, bind_eq_error_iff, numberOr_eq_infinite_iff]
        exact .inl ⟨_, hnumber, hinfinite⟩
    | rows hnumber hinfinite =>
        rw [ofObject_matrix, bind_eq_error_iff, numberOr_eq_infinite_iff]
        exact .inl ⟨_, hnumber, hinfinite⟩
    | columns hrows hnumber hinfinite =>
        rw [ofObject_matrix, bind_eq_error_iff]
        refine .inr ⟨_, hrows, ?_⟩
        rw [bind_eq_error_iff, numberOr_eq_infinite_iff]
        exact .inl ⟨_, hnumber, hinfinite⟩
    | line hmatches hbefore hpath hnumber hinfinite =>
        rw [ofObject_grep, bind_eq_error_iff]
        refine .inr ⟨_, required_eq_ok_iff.mpr hmatches, ?_⟩
        rw [bind_eq_error_iff]
        refine .inr ⟨_, rfl, ?_⟩
        rw [bind_eq_error_iff, mapM_grepMatch_eq_infinite_iff]
        exact .inl ⟨_, _, _, rfl, hbefore, ⟨_, hpath⟩, _, hnumber, hinfinite⟩

/-! ### Strings -/

/-- A string that is **refused**, and the reason. -/
inductive Refuses (raw : String) : ReplyFault → Prop
  | tooDeep : raw.toList.head? = some '\x7b' → Json.decode raw = .error .tooDeep →
      Refuses raw .tooDeep
  | kindIsList {value : Json} {items : List Json} : raw.toList.head? = some '\x7b' →
      Json.decode raw = .ok value → value.field? "type" = some (.list items) →
      Refuses raw .kindIsCollection
  | kindIsObject {value : Json} {fields : List (String × Json)} :
      raw.toList.head? = some '\x7b' → Json.decode raw = .ok value →
      value.field? "type" = some (.object fields) → Refuses raw .kindIsCollection
  | infiniteNumber {value : Json} {tag : String} : raw.toList.head? = some '\x7b' →
      Json.decode raw = .ok value → value.field? "type" = some (.text tag) →
      MeetsInfinity value tag → Refuses raw .infiniteNumber

/-- A string that is refused fails. -/
theorem Refuses.read_eq {raw : String} {fault : ReplyFault} (h : Refuses raw fault) :
    read raw = .error fault := by
  cases h with
  | tooDeep hopens hdeep =>
      rw [Json.decode, Json.decodeChars] at hdeep
      rw [read, readWithin, if_neg (not_not.mpr hopens), hdeep]
  | kindIsList hopens hvalue hkind | kindIsObject hopens hvalue hkind =>
      rw [Json.decode, Json.decodeChars] at hvalue
      rw [read, readWithin, if_neg (not_not.mpr hopens), hvalue]
      simp only [hkind]
  | infiniteNumber hopens hvalue htag hinfinite =>
      rw [Json.decode, Json.decodeChars] at hvalue
      rw [read, readWithin, if_neg (not_not.mpr hopens), hvalue]
      simp only [htag, ofObject_eq_infinite_iff.mpr hinfinite]

/-- A string is taken as a payload, taken as plain text, or refused. -/
theorem read_cases (raw : String) :
    (read raw = .ok (.plain raw) ∨ ∃ payload, read raw = .ok (.payload payload)) ∨
      ∃ fault, Refuses raw fault := by
  have houtcome := outcome Json.maxDepth raw
  rw [← read] at houtcome
  generalize hread : read raw = result at houtcome
  cases houtcome with
  | plain => exact .inl (.inl rfl)
  | payload hvalue htag hholds => exact .inl (.inr ⟨_, rfl⟩)
  | tooDeep hopens hdeep => exact .inr ⟨_, .tooDeep hopens hdeep⟩
  | kindIsList hopens hvalue hkind => exact .inr ⟨_, .kindIsList hopens hvalue hkind⟩
  | kindIsObject hopens hvalue hkind => exact .inr ⟨_, .kindIsObject hopens hvalue hkind⟩
  | infiniteNumber hopens hvalue htag hinfinite =>
      exact .inr ⟨_, .infiniteNumber hopens hvalue htag (ofObject_eq_infinite_iff.mp hinfinite)⟩

/-- **Reading a string** fails exactly for the strings that are refused. Any other string gives a
payload or comes back as it is. -/
theorem read_eq_error_iff (raw : String) :
    (∀ fault, read raw = .error fault ↔ Refuses raw fault) ∧
      ((∀ fault, ¬Refuses raw fault) →
        read raw = .ok (.plain raw) ∨ ∃ payload, read raw = .ok (.payload payload)) := by
  constructor
  · refine fun fault => ⟨fun hread => ?_, Refuses.read_eq⟩
    rcases read_cases raw with (hplain | ⟨payload, hpayload⟩) | ⟨first, hrefuses⟩
    · rw [hplain] at hread
      cases hread
    · rw [hpayload] at hread
      cases hread
    · rw [hrefuses.read_eq] at hread
      cases hread
      exact hrefuses
  · intro hnone
    refine (read_cases raw).resolve_right ?_
    rintro ⟨fault, hrefuses⟩
    exact hnone fault hrefuses

/-- Not every string is read: an object is refused whose kind is a list. -/
theorem not_exists_read_listKind :
    ¬∃ reply, read "\x7b\"type\": []\x7d" = .ok reply := by
  have hexact : (Json.object [("type", .list [])]).Exact :=
    .object (by decide) (by simpa using .list (by simp))
  have hraw : "\x7b\"type\": []\x7d".toList =
      (Json.object [("type", .list [])]).encodeChars := by decide +kernel
  have hvalue : Json.decode "\x7b\"type\": []\x7d" = .ok (.object [("type", .list [])]) := by
    rw [Json.decode, hraw, Json.decodeChars]
    exact hexact.decodeWithin_encodeChars (by decide)
  have hrefuses : Refuses "\x7b\"type\": []\x7d" .kindIsCollection :=
    .kindIsList (by decide) hvalue rfl
  rintro ⟨reply, hread⟩
  rw [hrefuses.read_eq] at hread
  cases hread

end VitaeShell.Reply
