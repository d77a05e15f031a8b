import Mathlib.Data.List.TakeWhile
import VitaeShell.Proofs.Number.Binary64
import VitaeShell.Proofs.Number.Numeral

/-!
# Whole numbers read as decimals

A text may write a whole number with a sign and with digits of any script, as many as it likes
(`Writes`). Read as a decimal it gives the binary value nearest to that number, which is the number
itself only up to 53 binary digits, and no finite value from the limit on.

## Main results

* `Spells.map_asciiDigit`: digits of any script are read like the ASCII ones.
* `Writes.exists_float?_eq`: a whole number is read as the value nearest to it.
-/

namespace VitaeShell

namespace Text

/-- A digit stands in one of the rows of the table, as far behind the zero as its value says. -/
theorem exists_of_digitValue? {c : Char} {d : Nat} (h : digitValue? c = some d) :
    d < 10 ∧ ∃ start ∈ digitZeros, c = Char.ofNat (start + d) := by
  obtain ⟨start, hfind, rfl⟩ := Option.map_eq_some_iff.mp h
  have hrow := List.find?_some hfind
  simp only [Bool.and_eq_true, decide_eq_true_eq] at hrow
  refine ⟨by omega, start, List.mem_of_find?_eq_some hfind, ?_⟩
  rw [Nat.add_sub_cancel' hrow.1, Char.ofNat_toNat]

/-- No digit is a blank. -/
theorem isBlank_of_digitValue? {c : Char} {d : Nat} (h : digitValue? c = some d) :
    isBlank c = false := by
  have htable : ∀ start ∈ digitZeros, ∀ d < 10, isBlank (Char.ofNat (start + d)) = false := by
    decide +kernel
  obtain ⟨hd, start, hstart, rfl⟩ := exists_of_digitValue? h
  exact htable start hstart d hd

end Text

namespace Numeral

/-! ### Texts that write a whole number -/

/-- Characters that are digits, of whatever script, with these values. -/
def Spells (cs : List Char) (digits : List Nat) : Prop :=
  List.Forall₂ (fun c d => Text.digitValue? c = some d) cs digits

instance (cs : List Char) (digits : List Nat) : Decidable (Spells cs digits) :=
  inferInstanceAs (Decidable (List.Forall₂ _ cs digits))

example : Spells ['٤', '2'] [4, 2] := by decide

/-- A text that writes a whole number: a sign or none, and the digits of its magnitude, at least one
and any number of them, the highest first. -/
inductive Writes : String → Int → Prop
  | unsigned {cs : List Char} {digits : List Nat} (hdigits : digits ≠ []) (h : Spells cs digits) :
    Writes (String.ofList cs) (Nat.ofDigits 10 digits.reverse : Nat)
  | plus {cs : List Char} {digits : List Nat} (hdigits : digits ≠ []) (h : Spells cs digits) :
    Writes (String.ofList ('+' :: cs)) (Nat.ofDigits 10 digits.reverse : Nat)
  | minus {cs : List Char} {digits : List Nat} (hdigits : digits ≠ []) (h : Spells cs digits) :
    Writes (String.ofList ('-' :: cs)) (-(Nat.ofDigits 10 digits.reverse : Nat))

variable {cs : List Char} {digits : List Nat}

/-- The digits that are spelled are below ten. -/
theorem Spells.lt_ten (h : Spells cs digits) : ∀ d ∈ digits, d < 10 := by
  induction h with
  | nil => simp
  | cons hc _ ih =>
      rw [List.forall_mem_cons]
      exact ⟨(Text.exists_of_digitValue? hc).1, ih⟩

/-- No character that spells a digit may stand around a numeral. -/
theorem Spells.isMargin_eq_false (h : Spells cs digits) : ∀ c ∈ cs, isMargin c = false := by
  induction h with
  | nil => simp
  | cons hc _ ih =>
      rw [List.forall_mem_cons]
      exact ⟨by rw [isMargin, Text.isBlank_of_digitValue? hc, Bool.false_and], ih⟩

/-- Digits of any script are read like the ASCII ones. -/
theorem Spells.map_asciiDigit (h : Spells cs digits) :
    cs.map asciiDigit = digits.map Nat.digitChar := by
  induction h with
  | nil => rfl
  | cons hc _ ih => rw [List.map_cons, List.map_cons, ih, asciiDigit, hc]

/-! ### How they are read -/

/-- Nothing is taken off where no character may stand around a numeral. -/
theorem withoutMargins_of_forall (h : ∀ c ∈ cs, isMargin c = false) : withoutMargins cs = cs := by
  have hkeep {xs : List Char} (hxs : ∀ c ∈ xs, isMargin c = false) :
      xs.dropWhile isMargin = xs := by
    rw [List.dropWhile_eq_self_iff]
    intro hpos
    rw [hxs _ (List.getElem_mem hpos)]
    exact Bool.false_ne_true
  rw [withoutMargins, hkeep h, hkeep fun c hc => h c (List.mem_reverse.mp hc), List.reverse_reverse]

/-- The characters in a numeral that are read as something else than a digit. -/
def marks : List Char := ['-', '+', '_', '.', 'e', 'E', 'n', 'i']

/-- An ASCII digit has its value, no other lowercase form, and is none of the marks. -/
theorem digitChar_cases {d : Nat} (hd : d < 10) :
    digitOf? 10 (Nat.digitChar d) = some d ∧ (Nat.digitChar d).toLower = Nat.digitChar d ∧
      Nat.digitChar d ∉ marks := by
  revert d
  decide

/-- A digit is not a mark. -/
theorem digitChar_ne {d : Nat} (hd : d < 10) {c : Char} (hc : c ∈ marks) : Nat.digitChar d ≠ c :=
  fun h => (digitChar_cases hd).2.2 (h ▸ hc)

/-- ASCII digits are read as the digits that they are. -/
theorem digitsIn?_map_digitChar (hne : digits ≠ []) (hdigits : ∀ d ∈ digits, d < 10) :
    digitsIn? 10 (digits.map Nat.digitChar) = some digits := by
  induction digits with
  | nil => exact absurd rfl hne
  | cons d rest ih =>
      rw [List.forall_mem_cons] at hdigits
      obtain ⟨hd, hrest⟩ := hdigits
      have hvalue := (digitChar_cases hd).1
      cases rest with
      | nil => simp [digitsIn?, hvalue]
      | cons e rest =>
          have hmark : Nat.digitChar e ≠ '_' := digitChar_ne (hrest e (by simp)) (by decide)
          have hothers := ih (by simp) hrest
          rw [List.map_cons] at hothers
          rw [List.map_cons, List.map_cons, digitsIn?.eq_4 10 _ _ (by simp) (by simp [hmark]),
            hvalue, hothers]
          rfl

/-- Digits alone are a decimal without a fraction and without an exponent. -/
theorem decimal?_map_digitChar (hne : digits ≠ []) (hdigits : ∀ d ∈ digits, d < 10) :
    decimal? (digits.map Nat.digitChar) = some (valueOf 10 digits, 0) := by
  have hkeep {p : Char → Bool} (hp : ∀ d < 10, p (Nat.digitChar d) = true) :
      (digits.map Nat.digitChar).takeWhile p = digits.map Nat.digitChar := by
    rw [List.takeWhile_eq_self_iff, List.forall_mem_map]
    exact fun d hd => hp d (hdigits d hd)
  have hsignificand := hkeep (p := fun c => !(decide (c = 'e') || decide (c = 'E'))) (by decide)
  have hwhole := hkeep (p := fun c => decide (c ≠ '.')) (by decide)
  have hempty : (digits.map Nat.digitChar).isEmpty = false := by simpa using hne
  have hempty' : digits.isEmpty = false := by simpa using hne
  simp only [decimal?, hsignificand, hwhole, List.drop_length, hempty,
    digitsIn?_map_digitChar hne hdigits]
  simp [hempty']

/-- There is no sign in front of digits. -/
theorem signOf_map_digitChar (hdigits : ∀ d ∈ digits, d < 10) :
    signOf (digits.map Nat.digitChar) = (false, digits.map Nat.digitChar) := by
  cases digits with
  | nil => rfl
  | cons d rest =>
      have hd : d < 10 := hdigits d (by simp)
      rw [List.map_cons, signOf.eq_3]
      · exact fun _ h => digitChar_ne hd (by decide) (List.cons.inj h).1
      · exact fun _ h => digitChar_ne hd (by decide) (List.cons.inj h).1

/-- The sign and the digits of a text that writes a whole number, as they are read. -/
theorem Writes.exists_signOf_eq {s : String} {n : Int} (h : Writes s n) :
    ∃ negative digits, digits ≠ [] ∧ (∀ d ∈ digits, d < 10) ∧
      signOf ((withoutMargins s.toList).map asciiDigit) = (negative, digits.map Nat.digitChar) ∧
      n = Binary64.signed negative (valueOf 10 digits) := by
  have hsigned {cs : List Char} {digits : List Nat} (hspells : Spells cs digits) {c : Char}
      (hc : c = '+' ∨ c = '-') : (withoutMargins (c :: cs)).map asciiDigit =
        c :: digits.map Nat.digitChar := by
    have hmargin : isMargin c = false := by obtain rfl | rfl := hc <;> decide
    have hsign : asciiDigit c = c := by obtain rfl | rfl := hc <;> decide
    rw [withoutMargins_of_forall (List.forall_mem_cons.mpr ⟨hmargin, hspells.isMargin_eq_false⟩),
      List.map_cons, hsign, hspells.map_asciiDigit]
  cases h with
  | @unsigned cs digits hne hspells =>
      refine ⟨false, digits, hne, hspells.lt_ten, ?_, by rw [valueOf_eq_ofDigits]; rfl⟩
      rw [String.toList_ofList, withoutMargins_of_forall hspells.isMargin_eq_false,
        hspells.map_asciiDigit, signOf_map_digitChar hspells.lt_ten]
  | @plus cs digits hne hspells =>
      refine ⟨false, digits, hne, hspells.lt_ten, ?_, by rw [valueOf_eq_ofDigits]; rfl⟩
      rw [String.toList_ofList, hsigned hspells (.inl rfl), signOf]
  | @minus cs digits hne hspells =>
      refine ⟨true, digits, hne, hspells.lt_ten, ?_, by rw [valueOf_eq_ofDigits]; rfl⟩
      rw [String.toList_ofList, hsigned hspells (.inr rfl), signOf]

/-- **A whole number is read as the value nearest to it**, with its sign, which zero may have
too. -/
theorem Writes.exists_float?_eq {s : String} {n : Int} (h : Writes s n) :
    ∃ negative magnitude, n = Binary64.signed negative magnitude ∧
      float? s = some (Binary64.ofRatio negative magnitude 1) := by
  obtain ⟨negative, digits, hne, hdigits, hsign, rfl⟩ := h.exists_signOf_eq
  refine ⟨negative, valueOf 10 digits, rfl, ?_⟩
  obtain ⟨d, rest, rfl⟩ := List.exists_cons_of_ne_nil hne
  have hd : d < 10 := hdigits d (by simp)
  -- the words begin with a letter
  have hword {word : String} {c : Char} (hstart : word.toList.head? = some c) (hc : c ∈ marks) :
      String.ofList (((d :: rest).map Nat.digitChar).map Char.toLower) ≠ word := by
    rintro rfl
    rw [String.toList_ofList, List.map_cons, List.map_cons, List.head?_cons,
      (digitChar_cases hd).2.1, Option.some.injEq] at hstart
    exact digitChar_ne hd hc hstart
  simp only [float?, hsign, decimal?_map_digitChar hne hdigits, Option.map_some,
    Binary64.ofDecimal_zero]
  rw [if_neg (hword (c := 'n') rfl (by decide)), if_neg]
  exact not_or.mpr ⟨hword (c := 'i') rfl (by decide), hword (c := 'i') rfl (by decide)⟩

end Numeral

end VitaeShell
