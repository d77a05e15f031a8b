import Mathlib.Data.List.TakeWhile
import VitaeShell.Proofs.Json.RoundTrip
import VitaeShell.Proofs.Number.Binary64
import VitaeShell.Proofs.Number.Numeral

/-!
# What a reader makes

A reader makes no value of which something would be lost in writing, but for its floating-point
numbers: the whole numbers in it are no longer than are read, and its objects have been through a
table, which has one place for each name (`Given`). So a value without floating-point numbers
(`Floatless`) that comes out of a text is exact, and the round trip of exact values holds for it.
Cut to whole numbers, its floating-point numbers are no longer than are read either.

## Main results

* `made_of_readValue`: what one step of the reader can make.
* `given_of_readValue`, `given_of_decodeWithin`: what is read.
* `exact_of_decodeWithin`: without floating-point numbers, what is read is exact.
-/

namespace VitaeShell.Json

/-- A value in which no floating-point number stands. -/
inductive Floatless : Json → Prop
  | null : Floatless .null
  | bool (value : Bool) : Floatless (.bool value)
  | int (value : Int) : Floatless (.int value)
  | text (value : String) : Floatless (.text value)
  | list {items : List Json} : (∀ item ∈ items, Floatless item) → Floatless (.list items)
  | object {fields : List (String × Json)} :
      (∀ field ∈ fields, Floatless field.2) → Floatless (.object fields)

/-- There is no number with a fraction in an exact value. -/
theorem Exact.floatless {value : Json} (h : value.Exact) : value.Floatless := by
  induction h with
  | null => exact .null
  | bool value => exact .bool value
  | int _ => exact .int _
  | text value => exact .text value
  | list _ ih => exact .list ih
  | object _ _ ih => exact .object ih

/-- A floating-point number whose whole part, if it has one, is no longer than is read. -/
def IsShort (x : Binary64) : Prop :=
  ∀ n, x.truncate? = some n → IsReadable n

/-- A value that a reader can have **given**: its numbers are no longer than are read, and its
objects have one place for each name. -/
inductive Given : Json → Prop
  | null : Given .null
  | bool (value : Bool) : Given (.bool value)
  | int {value : Int} : IsReadable value → Given (.int value)
  | float {value : Binary64} : IsShort value → Given (.float value)
  | text (value : String) : Given (.text value)
  | list {items : List Json} : (∀ item ∈ items, Given item) → Given (.list items)
  | object {fields : List (String × Json)} :
      Table.Distinct fields → (∀ field ∈ fields, Given field.2) → Given (.object fields)

/-- An exact value is one that a reader can have given. -/
theorem Exact.given {value : Json} (h : value.Exact) : value.Given := by
  induction h with
  | null => exact .null
  | bool value => exact .bool value
  | int hreadable => exact .int hreadable
  | text value => exact .text value
  | list _ ih => exact .list ih
  | object hdistinct _ ih => exact .object hdistinct ih

/-- Without floating-point numbers such a value is exact. -/
theorem Given.exact {value : Json} (h : value.Given) (hvalue : value.Floatless) : value.Exact := by
  induction h with
  | null => exact .null
  | bool value => exact .bool value
  | int hreadable => exact .int hreadable
  | float _ => cases hvalue
  | text value => exact .text value
  | list _ ih =>
      cases hvalue with
      | list hitems => exact .list fun item hitem => ih item hitem (hitems item hitem)
  | object hdistinct _ ih =>
      cases hvalue with
      | object hfields =>
          exact .object hdistinct fun field hfield => ih field hfield (hfields field hfield)

/-! ### Numbers -/

/-- A decimal is cut to a number that is no longer than is read. -/
theorem isShort_ofDecimal (negative : Bool) (digits : Nat) (exponent : Int) :
    IsShort (.ofDecimal negative digits exponent) := by
  intro n hn
  exact isReadable_of_lt (by decide) (Binary64.natAbs_lt_of_truncate?_ofDecimal hn)

/-- So are the values that are no numbers. -/
theorem isShort_of_truncate?_eq_none {x : Binary64} (h : x.truncate? = none) : IsShort x := by
  intro n hn
  rw [h] at hn
  cases hn

/-- The whole part of a number has digits only. -/
theorem isDigit_of_mem_wholePart {cs : List Char} {c : Char} (h : c ∈ wholePart cs) :
    isDigit c = true := by
  unfold wholePart at h
  split at h
  · obtain rfl := List.mem_singleton.mp h
    decide
  · exact List.mem_takeWhile_imp h

/-- The value of an ASCII digit. -/
theorem toNat_sub_lt_of_isDigit {c : Char} (h : isDigit c = true) : c.toNat - '0'.toNat < 10 := by
  simp only [isDigit, Bool.and_eq_true, decide_eq_true_eq] at h
  have hhigh : c.toNat ≤ '9'.toNat := h.2
  simp only [Char.reduceToNat] at hhigh ⊢
  omega

/-- A numeral is read as a whole number or as a floating-point one, which is no longer than is
read. -/
theorem readNumber_cases {cs rest : List Char} {value : Json}
    (h : readNumber cs = .ok (value, rest)) :
    (∃ n, value = .int n ∧ IsReadable n) ∨ ∃ x, value = .float x ∧ IsShort x := by
  unfold readNumber at h
  extract_lets negative body whole afterWhole fraction exponent tail magnitude at h
  split at h
  · cases h
  · split at h
    · split at h
      · cases h
      · next hlength =>
          obtain ⟨rfl, -⟩ := Prod.mk.inj (Except.ok.inj h)
          refine .inl ⟨_, rfl, ?_⟩
          have hdigits : ∀ d ∈ whole.map fun c => c.toNat - '0'.toNat, d < 10 := by
            intro d hd
            obtain ⟨c, hc, rfl⟩ := List.mem_map.mp hd
            exact toNat_sub_lt_of_isDigit (isDigit_of_mem_wholePart hc)
          have hvalue := Numeral.valueOf_lt (by decide) hdigits
          rw [List.length_map] at hvalue
          have hlimit : 10 ^ whole.length ≤ 10 ^ Numeral.maxDigits :=
            Nat.pow_le_pow_right (by decide) (Nat.not_lt.mp hlength)
          rw [IsReadable]
          split <;> omega
    · split at h
      · obtain ⟨rfl, -⟩ := Prod.mk.inj (Except.ok.inj h)
        exact .inr ⟨_, rfl, isShort_ofDecimal _ _ _⟩
      · cases h

/-! ### One step of the reader -/

/-- The values that a reader **makes** with so much fuel for their parts. -/
inductive Made (fuel : Nat) : Json → Prop
  | null : Made fuel .null
  | bool (value : Bool) : Made fuel (.bool value)
  | float {value : Binary64} : IsShort value → Made fuel (.float value)
  | int {value : Int} : IsReadable value → Made fuel (.int value)
  | text (value : String) : Made fuel (.text value)
  | nothing : Made fuel (.list [])
  | list {depth : Nat} {cs rest : List Char} {items : List Json} :
      readItems fuel depth cs = .ok (items, rest) → Made fuel (.list items)
  | bare : Made fuel (.object [])
  | object {depth : Nat} {cs rest : List Char} {fields : List (String × Json)} :
      readFields fuel depth cs = .ok (fields, rest) → Made fuel (.object (Table.ofList fields))

/-- **What one step of the reader makes.** -/
theorem made_of_readValue {fuel depth : Nat} {cs rest : List Char} {value : Json}
    (h : readValue (fuel + 1) depth cs = .ok (value, rest)) : Made fuel value := by
  unfold readValue at h
  split at h
  · -- a text
    split at h
    · cases h
      exact .text _
    · cases h
  · -- a list
    split at h
    · cases h
    · cases h
      exact .nothing
    · split at h
      · next hitems =>
          cases h
          exact .list hitems
      · cases h
  · -- an object
    split at h
    · cases h
    · cases h
      exact .bare
    · split at h
      · next hfields =>
          cases h
          exact .object hfields
      · cases h
  · cases h
    exact .null
  · cases h
    exact .bool true
  · cases h
    exact .bool false
  · cases h
    exact .float (isShort_of_truncate?_eq_none rfl)
  · cases h
    exact .float (isShort_of_truncate?_eq_none rfl)
  · cases h
    exact .float (isShort_of_truncate?_eq_none rfl)
  · rcases readNumber_cases h with ⟨n, rfl, hn⟩ | ⟨x, rfl, hx⟩
    · exact .int hn
    · exact .float hx

/-! ### The parts of a collection -/

/-- Each item of a list has been read on its own. -/
theorem exists_readValue_of_readItems {fuel depth : Nat} {cs rest : List Char} {items : List Json}
    (h : readItems fuel depth cs = .ok (items, rest)) :
    ∀ item ∈ items, ∃ less < fuel, ∃ cs rest, readValue less depth cs = .ok (item, rest) := by
  induction fuel generalizing cs items with
  | zero => cases h
  | succ fuel ih =>
      unfold readItems at h
      split at h
      · cases h
      · next first after hfirst =>
          have hhead : ∃ less < fuel + 1, ∃ cs rest, readValue less depth cs = .ok (first, rest) :=
            ⟨fuel, Nat.lt_succ_self fuel, cs, after, hfirst⟩
          split at h
          · split at h
            · next others _ hothers =>
                cases h
                rw [List.forall_mem_cons]
                refine ⟨hhead, fun item hitem => ?_⟩
                obtain ⟨less, hless, hread⟩ := ih hothers item hitem
                exact ⟨less, hless.trans (Nat.lt_succ_self fuel), hread⟩
            · cases h
          · cases h
            simpa using hhead
          · cases h

/-- Each value in an object has been read on its own. -/
theorem exists_readValue_of_readFields {fuel depth : Nat} {cs rest : List Char}
    {fields : List (String × Json)} (h : readFields fuel depth cs = .ok (fields, rest)) :
    ∀ field ∈ fields, ∃ less < fuel, ∃ cs rest, readValue less depth cs = .ok (field.2, rest) := by
  induction fuel generalizing cs fields with
  | zero => cases h
  | succ fuel ih =>
      unfold readFields at h
      split at h
      · split at h
        · cases h
        · split at h
          · split at h
            · cases h
            · next first after hfirst =>
                have hhead : ∃ less < fuel + 1, ∃ cs rest,
                    readValue less depth cs = .ok (first, rest) :=
                  ⟨fuel, Nat.lt_succ_self fuel, _, after, hfirst⟩
                split at h
                · split at h
                  · next others _ hothers =>
                      cases h
                      rw [List.forall_mem_cons]
                      refine ⟨hhead, fun field hfield => ?_⟩
                      obtain ⟨less, hless, hread⟩ := ih hothers field hfield
                      exact ⟨less, hless.trans (Nat.lt_succ_self fuel), hread⟩
                  · cases h
                · cases h
                  simpa using hhead
                · cases h
          · cases h
      · cases h

/-! ### Whole values -/

/-- **What is read** is a value that a reader can have given. -/
theorem given_of_readValue {fuel depth : Nat} {cs rest : List Char} {value : Json}
    (h : readValue fuel depth cs = .ok (value, rest)) : value.Given := by
  -- the parts of a collection are read with less fuel than the collection
  induction fuel using Nat.strongRecOn generalizing depth cs rest value with
  | ind fuel ih =>
      cases fuel with
      | zero => cases h
      | succ fuel =>
          cases made_of_readValue h with
          | null => exact .null
          | bool value => exact .bool value
          | float hshort => exact .float hshort
          | int hreadable => exact .int hreadable
          | text value => exact .text value
          | nothing => exact .list (by simp)
          | list hitems =>
              refine .list fun item hitem => ?_
              obtain ⟨less, hless, _, _, hread⟩ := exists_readValue_of_readItems hitems item hitem
              exact ih less (by omega) hread
          | bare => exact .object List.nodup_nil (by simp)
          | object hfields =>
              refine .object (Table.distinct_ofList _) fun field hfield => ?_
              obtain ⟨less, hless, _, _, hread⟩ :=
                exists_readValue_of_readFields hfields field (Table.mem_of_mem_ofList hfield)
              exact ih less (by omega) hread

/-- So is what a whole text is read as. -/
theorem given_of_decodeWithin {depth : Nat} {cs : List Char} {value : Json}
    (h : decodeWithin depth cs = .ok value) : value.Given := by
  rw [decodeWithin] at h
  split at h
  · cases h
  · next hread =>
      split at h
      · cases h
        exact given_of_readValue hread
      · cases h

/-- **A whole text is read as an exact value** if no floating-point number stands in that value. -/
theorem exact_of_decodeWithin {depth : Nat} {cs : List Char} {value : Json}
    (h : decodeWithin depth cs = .ok value) (hvalue : value.Floatless) : value.Exact :=
  (given_of_decodeWithin h).exact hvalue

end VitaeShell.Json
