import Mathlib.Data.Nat.Digits.Lemmas
import VitaeShell.Number.Numeral

/-!
# The size of numerals

A numeral is as large as its digits allow. A whole number that is read from a text has no more
digits than are read, and so lies below that power of ten, however the text writes it.

## Main results

* `valueOf_lt`: digits below the base stand for less than its power.
* `natAbs_lt_of_int?`: a whole number that a text writes is no longer than is read.
-/

namespace VitaeShell.Numeral

/-- Digits are below their base. -/
theorem lt_of_digitOf? {base d : Nat} {c : Char} (h : digitOf? base c = some d) : d < base := by
  rw [digitOf?, Option.filter_eq_some_iff] at h
  exact of_decide_eq_true h.2

/-- So are all digits of a numeral, with or without underscores between them. -/
theorem lt_of_mem_digitsIn? {base : Nat} {cs : List Char} {digits : List Nat}
    (h : digitsIn? base cs = some digits) : ∀ d ∈ digits, d < base := by
  fun_induction digitsIn? base cs generalizing digits with
  | case1 => cases h
  | case2 c =>
      obtain ⟨d, hd, rfl⟩ := Option.map_eq_some_iff.mp h
      simpa using lt_of_digitOf? hd
  | case3 c rest ih | case4 c rest hempty hmark ih =>
      obtain ⟨d, hd, h⟩ := Option.bind_eq_some_iff.mp h
      obtain ⟨others, hothers, h⟩ := Option.bind_eq_some_iff.mp h
      obtain rfl : d :: others = digits := Option.some.inj h
      rw [List.forall_mem_cons]
      exact ⟨lt_of_digitOf? hd, ih hothers⟩

/-- Digits as they are written, the highest first. -/
theorem valueOf_eq_ofDigits (base : Nat) (digits : List Nat) :
    valueOf base digits = Nat.ofDigits base digits.reverse := by
  rw [Nat.ofDigits_eq_foldr, List.foldr_reverse, valueOf]
  simp only [Nat.cast_id, Nat.mul_comm, Nat.add_comm]

/-- Digits below the base stand for less than its power. -/
theorem valueOf_lt {base : Nat} (hbase : 1 < base) {digits : List Nat}
    (h : ∀ d ∈ digits, d < base) : valueOf base digits < base ^ digits.length := by
  rw [valueOf_eq_ofDigits, ← List.length_reverse]
  exact Nat.ofDigits_lt_base_pow_length hbase fun d hd => h d (List.mem_reverse.mp hd)

/-- A whole number that a text writes is no longer than is read. -/
theorem natAbs_lt_of_int? {s : String} {n : Int} (h : int? s = some n) :
    n.natAbs < 10 ^ maxDigits := by
  rw [int?, intIn?] at h
  simp only at h
  split at h
  · next digits hdigits =>
      have hvalue := valueOf_lt (by decide) (lt_of_mem_digitsIn? hdigits)
      split at h
      · cases h
      · next hlength =>
          have hlimit : 10 ^ digits.length ≤ 10 ^ maxDigits :=
            Nat.pow_le_pow_right (by decide) (Nat.not_lt.mp fun hlong => hlength ⟨trivial, hlong⟩)
          rw [Option.some.injEq] at h
          split at h <;> omega
  · cases h

end VitaeShell.Numeral
