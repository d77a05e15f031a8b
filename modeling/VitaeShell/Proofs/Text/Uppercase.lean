import VitaeShell.Text.Casing

/-!
# Letters in an uppercase

The uppercase of a text may hold letters of any alphabet, also small ones that have no capital. But
it holds no small letter of the ASCII alphabet: those all have capitals, and no other letter has one
of them in its uppercase.

## Main results

* `notMem_uppercase`: a small ASCII letter is in no uppercase.
-/

namespace VitaeShell.Text

/-- The small ASCII letters by number. -/
theorem isLower_iff {c : Char} : c.isLower = true ↔ 0x61 ≤ c.toNat ∧ c.toNat ≤ 0x7a := by
  show (decide (c.val ≥ 'a'.val) && decide (c.val ≤ 'z'.val)) = true ↔ _
  simp [UInt32.le_iff_toNat_le, ← Char.toNat_val]

/-- A character that is made of another number is none of them. -/
theorem isLower_ofNat_eq_false {n : Nat} (h : n < 0x61 ∨ 0x7a < n) :
    (Char.ofNat n).isLower = false := by
  by_cases hvalid : n.isValidChar
  · have htoNat : (Char.ofNat n).toNat = n := by
      rw [Char.ofNat, dif_pos hvalid]
      rfl
    rw [← Bool.not_eq_true, isLower_iff, htoNat]
    omega
  · rw [Char.ofNat, dif_neg hvalid]
    decide

/-- No run leads from beyond ASCII to a small ASCII letter. -/
theorem isLower_mapByRuns {c : Char} (h : 0x80 ≤ c.toNat) :
    (mapByRuns uppercaseRuns c).isLower = false := by
  have hruns : (uppercaseRuns.all fun run => decide (run.last < 0x80 ∨
      0x7a < run.first + run.shift ∨ run.last + run.shift < 0x61)) = true := by
    decide +kernel
  rw [mapByRuns]
  cases himage : uppercaseRuns.findSome? (·.image? c.toNat) with
  | none =>
      rw [Option.map_none, Option.getD_none, ← Bool.not_eq_true, isLower_iff]
      omega
  | some code =>
      obtain ⟨run, hrun, hcode⟩ := List.exists_of_findSome?_eq_some himage
      have hapart := of_decide_eq_true (List.all_eq_true.mp hruns run hrun)
      rw [CaseRun.image?] at hcode
      split at hcode
      · next hheld =>
          obtain rfl := Option.some.inj hcode
          rw [Option.map_some, Option.getD_some]
          refine isLower_ofNat_eq_false ?_
          omega
      · cases hcode

/-- The uppercase of a letter holds no small ASCII letter. -/
theorem isLower_of_mem_upperLetter {c d : Char} (h : d ∈ upperLetter c) : d.isLower = false := by
  have hexpansions : (uppercaseExpansions.all fun entry =>
      entry.2.all fun code => !(Char.ofNat code).isLower) = true := by
    decide +kernel
  rw [upperLetter] at h
  split at h
  · rw [List.mem_singleton.mp h]
    have hascii : ∀ n < 0x80, (Char.ofNat n).toUpper.isLower = false := by decide
    rw [← Char.ofNat_toNat c]
    exact hascii c.toNat ‹_›
  · next hascii =>
      split at h
      · next codes hcodes =>
          obtain ⟨front, behind, hlist, -⟩ := List.lookup_eq_some_iff.mp hcodes
          obtain ⟨code, hcode, rfl⟩ := List.mem_map.mp h
          have hentry := List.all_eq_true.mp hexpansions (c.toNat, codes) (by simp [hlist])
          simpa using List.all_eq_true.mp hentry code hcode
      · rw [List.mem_singleton.mp h]
        exact isLower_mapByRuns (by omega)

/-- **A small ASCII letter is in no uppercase.** -/
theorem notMem_uppercase {c : Char} (h : c.isLower = true) (s : String) :
    c ∉ (uppercase s).toList := by
  intro hc
  rw [uppercase, String.toList_ofList, List.mem_flatMap] at hc
  obtain ⟨d, -, hd⟩ := hc
  rw [isLower_of_mem_upperLetter hd] at h
  cases h

end VitaeShell.Text
