import Mathlib.Data.List.Basic
import VitaeShell.Proofs.Json.Text

/-!
# Whole numbers

A whole number is written as its decimal digits behind a sign, and read back from them, of whatever
size it is up to the longest numeral that is read. The reader needs to see where the number ends:
what follows may not go on it (`EndsNumber`).

## Main results

* `toList_toString_int`: the form in which a whole number is written.
* `readNumber_toString`: a whole number of no more digits than are read (`IsReadable`) is read back,
  in front of any text that does not go on it.
* `plainAscii_toString_int`: it is written in plain ASCII.
-/

namespace VitaeShell.Json

/-- A text that does not go on a whole number in front of it: it starts with no digit, no point and
no exponent. -/
def EndsNumber (rest : List Char) : Prop :=
  ∀ c ∈ rest.head?, isDigit c = false ∧ c ≠ '.' ∧ c ≠ 'e' ∧ c ≠ 'E'

theorem endsNumber_nil : EndsNumber [] := by
  simp [EndsNumber]

/-- A separator or a closing bracket ends a number. -/
theorem endsNumber_cons {c : Char} (rest : List Char) (h : c = ',' ∨ c = ']' ∨ c = '\x7d') :
    EndsNumber (c :: rest) := by
  rintro d hd
  obtain rfl : c = d := Option.some.inj hd
  obtain rfl | rfl | rfl := h <;> decide

/-- A whole number of no more digits than are read. -/
def IsReadable (n : Int) : Prop :=
  n.natAbs < 10 ^ Numeral.maxDigits

/-- Numbers of few digits can be read. -/
theorem isReadable_of_lt {n : Int} {k : Nat} (hk : k ≤ Numeral.maxDigits)
    (hn : n.natAbs < 10 ^ k) : IsReadable n :=
  lt_of_lt_of_le hn (Nat.pow_le_pow_right (by decide) hk)

/-- A number no greater than one that can be read can be read. -/
theorem IsReadable.of_natAbs_le {m n : Int} (h : IsReadable n) (hmn : m.natAbs ≤ n.natAbs) :
    IsReadable m :=
  lt_of_le_of_lt hmn h

/-! ### Decimal digits -/

/-- The decimal digits of a number are digits. -/
theorem isDigit_of_mem_toDigits {n : Nat} {c : Char} (h : c ∈ Nat.toDigits 10 n) :
    isDigit c = true :=
  Nat.isDigit_of_mem_toDigits (by decide) (by decide) h

/-- Only zero has a zero in front. -/
theorem head?_toDigits_ne_zero {n : Nat} (h : n ≠ 0) : (Nat.toDigits 10 n).head? ≠ some '0' := by
  induction n using Nat.strongRecOn with
  | ind n ih =>
      by_cases hn : n < 10
      · simpa [Nat.toDigits_of_lt_base hn] using h
      · rw [Nat.toDigits_of_base_le (by decide) (by omega),
          List.head?_append_of_ne_nil _ Nat.toDigits_ne_nil]
        exact ih (n / 10) (by omega) (by omega)

/-- The digits of a number have the value of the number. -/
theorem valueOf_toDigits (n : Nat) :
    Numeral.valueOf 10 ((Nat.toDigits 10 n).map fun c => c.toNat - '0'.toNat) = n := by
  have hvalue : Numeral.valueOf 10 ((Nat.toDigits 10 n).map fun c => c.toNat - '0'.toNat) =
      Nat.ofDigitChars 10 (Nat.toDigits 10 n) 0 := by
    simp only [Numeral.valueOf, Nat.ofDigitChars, List.foldl_map, Nat.mul_comm]
  rw [hvalue, Nat.ofDigitChars_ten_toDigits]

/-! ### The parts of a numeral -/

variable {rest : List Char}

/-- The digits of a number are the whole part of the text that starts with them. -/
theorem wholePart_toDigits (n : Nat) (hrest : EndsNumber rest) :
    wholePart (Nat.toDigits 10 n ++ rest) = Nat.toDigits 10 n := by
  have htake : (Nat.toDigits 10 n ++ rest).takeWhile isDigit = Nat.toDigits 10 n := by
    rw [List.takeWhile_append_of_pos fun c hc => isDigit_of_mem_toDigits hc]
    cases rest with
    | nil => simp
    | cons c rest => simp [(hrest c rfl).1]
  by_cases hn : n = 0
  · subst hn
    rfl
  · unfold wholePart
    split
    · next heq =>
        have hhead : (Nat.toDigits 10 n ++ rest).head? = (Nat.toDigits 10 n).head? :=
          List.head?_append_of_ne_nil _ Nat.toDigits_ne_nil
        rw [heq] at hhead
        exact absurd hhead.symm (head?_toDigits_ne_zero hn)
    · exact htake

/-- What ends a number does not go on with a fraction. -/
theorem fractionPart_eq_nil (h : EndsNumber rest) : fractionPart rest = [] := by
  cases rest with
  | nil => rfl
  | cons c rest =>
      obtain ⟨-, hpoint, -⟩ := h c rfl
      simp [fractionPart, hpoint]

/-- Nor does it go on with an exponent. -/
theorem exponentPart_eq_nil (h : EndsNumber rest) : exponentPart rest = [] := by
  cases rest with
  | nil => rfl
  | cons c rest =>
      obtain ⟨-, -, he, hE⟩ := h c rfl
      simp [exponentPart, he, hE]

/-! ### The whole numeral -/

/-- The sign in front of the digits of a number. -/
def signChars (negative : Bool) : List Char :=
  if negative then ['-'] else []

/-- A whole number is written as its sign and the digits of its magnitude. -/
theorem toList_toString_int (n : Int) :
    (toString n).toList = signChars (n < 0) ++ Nat.toDigits 10 n.natAbs := by
  cases n with
  | ofNat n => simp [signChars, Int.repr_eq_if]
  | negSucc n => simp [signChars, Int.repr_eq_if]

/-- Sign and digits are read back as the number that they write, unless there are too many. -/
theorem readNumber_digits (negative : Bool) (n : Nat) (hrest : EndsNumber rest) :
    readNumber (signChars negative ++ (Nat.toDigits 10 n ++ rest)) =
      if n < 10 ^ Numeral.maxDigits then .ok (.int (if negative then -n else n), rest)
      else .error .numeralTooLong := by
  have hlength : Numeral.maxDigits < (Nat.toDigits 10 n).length ↔ ¬n < 10 ^ Numeral.maxDigits := by
    rw [← Nat.not_le, Nat.length_toDigits_le_iff (by decide) (by decide)]
  have hdigits : (Nat.toDigits 10 n ++ rest).head? ≠ some '-' := by
    rw [List.head?_append_of_ne_nil _ Nat.toDigits_ne_nil]
    intro h
    exact absurd (isDigit_of_mem_toDigits (List.mem_of_head? h)) (by decide)
  have hsign : (signChars negative ++ (Nat.toDigits 10 n ++ rest)).head? = some '-' ↔
      negative = true := by
    cases negative
    · simpa [signChars] using hdigits
    · simp [signChars]
  have hbody : (if negative = true then (signChars negative ++ (Nat.toDigits 10 n ++ rest)).drop 1
      else signChars negative ++ (Nat.toDigits 10 n ++ rest)) = Nat.toDigits 10 n ++ rest := by
    cases negative <;> rfl
  simp only [readNumber, hsign, hbody, wholePart_toDigits n hrest, List.drop_left,
    fractionPart_eq_nil hrest, exponentPart_eq_nil hrest, List.length_nil, List.drop_zero,
    valueOf_toDigits, hlength]
  by_cases hn : n < 10 ^ Numeral.maxDigits
  · simp [hn]
  · simp [hn]

/-- **Whole numbers.** A written whole number is read back. -/
theorem readNumber_toString {n : Int} (hn : IsReadable n) (hrest : EndsNumber rest) :
    readNumber ((toString n).toList ++ rest) = .ok (.int n, rest) := by
  have hlimit : n.natAbs < 10 ^ Numeral.maxDigits := hn
  rw [toList_toString_int, List.append_assoc, readNumber_digits _ _ hrest, if_pos hlimit]
  congr 3
  simp only [decide_eq_true_eq]
  split <;> omega

/-- A whole number of more digits than are read is refused for that. -/
theorem readNumber_toString_of_not_isReadable {n : Int} (hn : ¬IsReadable n)
    (hrest : EndsNumber rest) :
    readNumber ((toString n).toList ++ rest) = .error .numeralTooLong := by
  rw [toList_toString_int, List.append_assoc, readNumber_digits _ _ hrest]
  exact if_neg hn

/-- The first character of a written number is a minus in front of a digit, or a digit. -/
theorem toList_toString_int_cases (n : Int) :
    (∃ d ds, (toString n).toList = d :: ds ∧ isDigit d = true) ∨
      ∃ d ds, (toString n).toList = '-' :: d :: ds ∧ isDigit d = true := by
  obtain ⟨d, ds, hds⟩ := List.exists_cons_of_ne_nil (Nat.toDigits_ne_nil (b := 10) (n := n.natAbs))
  have hd : isDigit d = true := isDigit_of_mem_toDigits (n := n.natAbs) (by simp [hds])
  rw [toList_toString_int, hds]
  by_cases hn : n < 0
  · exact .inr ⟨d, ds, by simp [signChars, hn], hd⟩
  · exact .inl ⟨d, ds, by simp [signChars, hn], hd⟩

/-- A written number is plain ASCII. -/
theorem plainAscii_toString_int (n : Int) : Text.PlainAscii (toString n).toList := by
  rw [toList_toString_int, Text.plainAscii_append]
  constructor
  · unfold signChars
    split <;> simp
  · intro c hc
    have hdigit := isDigit_of_mem_toDigits hc
    simp only [isDigit, Bool.and_eq_true, decide_eq_true_eq] at hdigit
    obtain ⟨hlow, hhigh⟩ := hdigit
    have h1 : '0'.toNat ≤ c.toNat := hlow
    have h2 : c.toNat ≤ '9'.toNat := hhigh
    simp at h1 h2
    omega

end VitaeShell.Json
