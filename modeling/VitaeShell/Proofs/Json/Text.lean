import Mathlib.Tactic.IntervalCases
import Mathlib.Tactic.SplitIfs
import VitaeShell.Json.Printer
import VitaeShell.Json.Reader

/-!
# Texts between quotes

The reader takes back every text that the writer puts between quotes, whatever its characters are:
those that need an escape of a letter, those that are written as one sixteen-bit unit, and those
that are written as a pair of surrogates. What the writer puts there is plain ASCII.

## Main results

* `readText_encodeChar`: what stands for one character is read as that character, in front of any
  text that can be read.
* `readText_encodeText`: a written text is read back, and the reader stops behind its closing
  quote.
* `plainAscii_encodeText`: a written text holds no character outside `U+0020` to `U+007E`.
-/

namespace VitaeShell

/-- Characters of printable ASCII only; in particular there is no line break among them. -/
def Text.PlainAscii (cs : List Char) : Prop :=
  ∀ c ∈ cs, 0x20 ≤ c.toNat ∧ c.toNat < 0x7f

namespace Text

@[simp]
theorem plainAscii_nil : PlainAscii [] := by
  simp [PlainAscii]

/-- A text is plain if its first character and the rest are. -/
@[simp]
theorem plainAscii_cons {c : Char} {cs : List Char} :
    PlainAscii (c :: cs) ↔ (0x20 ≤ c.toNat ∧ c.toNat < 0x7f) ∧ PlainAscii cs := by
  simp [PlainAscii]

/-- Two texts are plain together if each is. -/
@[simp]
theorem plainAscii_append {cs ds : List Char} :
    PlainAscii (cs ++ ds) ↔ PlainAscii cs ∧ PlainAscii ds :=
  List.forall_mem_append

end Text

/-- A character is none of the numbers that surrogates take. -/
theorem toNat_scalar (c : Char) :
    c.toNat < 0xd800 ∨ (0xdfff < c.toNat ∧ c.toNat < 0x110000) :=
  c.valid

namespace Json

/-! ### Sixteen-bit units -/

/-- A hexadecimal digit has the value that it was written for. -/
theorem digitOf?_digitChar {n : Nat} (h : n < 16) :
    Numeral.digitOf? 16 (Nat.digitChar n) = some n := by
  interval_cases n <;> decide

/-- The escape of a unit is six characters, the last four of which write the unit. -/
theorem exists_unitEscape_eq {n : Nat} (h : n < 0x10000) :
    ∃ a b c d, unitEscape n = ['\\', 'u', a, b, c, d] ∧ unit? a b c d = some n := by
  refine ⟨_, _, _, _, rfl, ?_⟩
  have digit (k : Nat) : Numeral.digitOf? 16 (Nat.digitChar (n / k % 16)) = some (n / k % 16) :=
    digitOf?_digitChar (Nat.mod_lt _ (by decide))
  have hdigits :
      ((n / 4096 % 16 * 16 + n / 256 % 16) * 16 + n / 16 % 16) * 16 + n / 1 % 16 = n := by omega
  simp only [unit?, digit, Option.some.injEq]
  exact hdigits

/-- A character of sixteen bits is no half of a pair, and stands for itself. -/
theorem loneUnit_toNat {c : Char} (h : c.toNat < 0x10000) :
    isHighSurrogate c.toNat = false ∧ loneUnit c.toNat = c := by
  have hscalar := toNat_scalar c
  have hhigh : isHighSurrogate c.toNat = false := by
    simp [isHighSurrogate]
    omega
  have hlow : isLowSurrogate c.toNat = false := by
    simp [isLowSurrogate]
    omega
  exact ⟨hhigh, by simp [loneUnit, hhigh, hlow]⟩

/-- The two halves of a character beyond sixteen bits give it back. -/
theorem ofNat_surrogates {c : Char} (h : 0x10000 ≤ c.toNat) :
    Char.ofNat (0x10000 + (0xd800 + (c.toNat - 0x10000) / 0x400 - 0xd800) * 0x400 +
      (0xdc00 + (c.toNat - 0x10000) % 0x400 - 0xdc00)) = c := by
  have hsum : 0x10000 + (0xd800 + (c.toNat - 0x10000) / 0x400 - 0xd800) * 0x400 +
      (0xdc00 + (c.toNat - 0x10000) % 0x400 - 0xdc00) = c.toNat := by omega
  rw [hsum, Char.ofNat_toNat]

/-! ### Reading one character -/

variable {rest cs tail : List Char}

/-- A broken unit makes the text unreadable. -/
theorem readText_of_unit?_none {a b c d : Char} (hunit : unit? a b c d = none) :
    readText ('\\' :: 'u' :: a :: b :: c :: d :: rest) = .error .malformed := by
  by_cases hnext : ∃ e f g h more, rest = '\\' :: 'u' :: e :: f :: g :: h :: more
  · obtain ⟨e, f, g, h, more, rfl⟩ := hnext
    rw [readText, hunit]
  · rw [readText]
    · simp only [hunit]
    · rintro e f g h more rfl
      exact hnext ⟨e, f, g, h, more, rfl⟩

/-- A unit that opens no pair is read on its own, also in front of another unit. -/
theorem readText_unitEscape {n : Nat} (hn : n < 0x10000) (hhigh : isHighSurrogate n = false)
    (hrest : readText rest = .ok (cs, tail)) :
    readText (unitEscape n ++ rest) = .ok (loneUnit n :: cs, tail) := by
  obtain ⟨a, b, c, d, hescape, hunit⟩ := exists_unitEscape_eq hn
  rw [hescape]
  simp only [List.cons_append, List.nil_append]
  -- the reader looks ahead at a second unit, and would refuse a broken one
  by_cases hnext : ∃ e f g h more, rest = '\\' :: 'u' :: e :: f :: g :: h :: more
  · obtain ⟨e, f, g, h, more, rfl⟩ := hnext
    rw [readText, hunit]
    cases hlow : unit? e f g h with
    | none =>
        rw [readText_of_unit?_none hlow] at hrest
        cases hrest
    | some low => simp only [hhigh, Bool.false_and, Bool.false_eq_true, if_false, hrest]
  · rw [readText]
    · simp only [hunit, hrest]
    · rintro e f g h more rfl
      exact hnext ⟨e, f, g, h, more, rfl⟩

/-- A pair of surrogates is read as the one character that it stands for. -/
theorem readText_pair {high low : Nat} (hhigh : isHighSurrogate high = true)
    (hlow : isLowSurrogate low = true) (hrest : readText rest = .ok (cs, tail)) :
    readText (unitEscape high ++ (unitEscape low ++ rest)) =
      .ok (Char.ofNat (0x10000 + (high - 0xd800) * 0x400 + (low - 0xdc00)) :: cs, tail) := by
  have hhigh' : high < 0x10000 := by
    simp [isHighSurrogate] at hhigh
    omega
  have hlow' : low < 0x10000 := by
    simp [isLowSurrogate] at hlow
    omega
  obtain ⟨a, b, c, d, hescape₁, hunit₁⟩ := exists_unitEscape_eq hhigh'
  obtain ⟨e, f, g, h, hescape₂, hunit₂⟩ := exists_unitEscape_eq hlow'
  rw [hescape₁, hescape₂]
  simp only [List.cons_append, List.nil_append]
  rw [readText, hunit₁, hunit₂]
  simp only [hhigh, hlow, Bool.and_self, if_true, hrest]

/-- A letter after a backslash is read as the character that it stands for. -/
theorem readText_letter {letter c : Char} (hu : letter ≠ 'u') (hletter : escaped? letter = some c)
    (hrest : readText rest = .ok (cs, tail)) :
    readText ('\\' :: letter :: rest) = .ok (c :: cs, tail) := by
  rw [readText]
  · simp only [hletter, hrest]
  all_goals simp [hu]

/-- A character that needs no escape is read as it stands. -/
theorem readText_shown {c : Char} (hshown : 0x20 ≤ c.toNat) (hquote : c ≠ '\x22')
    (hbackslash : c ≠ '\\') (hrest : readText rest = .ok (cs, tail)) :
    readText (c :: rest) = .ok (c :: cs, tail) := by
  rw [readText]
  · have hallowed : ¬(c.toNat < 0x20 ∨ c = '\\') := by
      simp only [hbackslash, or_false]
      omega
    rw [if_neg hallowed, hrest]
  · exact hquote
  all_goals simp [hbackslash]

/-- **One character.** What the writer puts for a character is read as that character. -/
theorem readText_encodeChar (c : Char) (hrest : readText rest = .ok (cs, tail)) :
    readText (encodeChar c ++ rest) = .ok (c :: cs, tail) := by
  unfold encodeChar
  split_ifs with h1 h2 h3 h4 h5 h6 h7 hshown hunit
  · subst h1; exact readText_letter (by decide) rfl hrest
  · subst h2; exact readText_letter (by decide) rfl hrest
  · subst h3; exact readText_letter (by decide) rfl hrest
  · subst h4; exact readText_letter (by decide) rfl hrest
  · subst h5; exact readText_letter (by decide) rfl hrest
  · subst h6; exact readText_letter (by decide) rfl hrest
  · subst h7; exact readText_letter (by decide) rfl hrest
  · exact readText_shown hshown.1 h1 h2 hrest
  · obtain ⟨hhigh, hself⟩ := loneUnit_toNat hunit
    simpa only [hself] using readText_unitEscape hunit hhigh hrest
  · have hscalar := toNat_scalar c
    have hhigh : isHighSurrogate (0xd800 + (c.toNat - 0x10000) / 0x400) = true := by
      simp [isHighSurrogate]
      omega
    have hlow : isLowSurrogate (0xdc00 + (c.toNat - 0x10000) % 0x400) = true := by
      simp [isLowSurrogate]
      omega
    rw [List.append_assoc, readText_pair hhigh hlow hrest, ofNat_surrogates (by omega)]

/-- Characters in the form of the writer are read up to the closing quote. -/
theorem readText_flatMap_encodeChar (cs rest : List Char) :
    readText (cs.flatMap encodeChar ++ '\x22' :: rest) = .ok (cs, rest) := by
  induction cs with
  | nil => rfl
  | cons c cs ih =>
      rw [List.flatMap_cons, List.append_assoc]
      exact readText_encodeChar c ih

/-- **A whole text.** A written text starts with a quote, and what follows it is read back. -/
theorem readText_encodeText (s : String) (rest : List Char) :
    ∃ body, encodeText s ++ rest = '\x22' :: body ∧ readText body = .ok (s.toList, rest) := by
  refine ⟨s.toList.flatMap encodeChar ++ '\x22' :: rest, ?_, readText_flatMap_encodeChar _ _⟩
  simp [encodeText]

/-! ### The characters of a written text -/

/-- A hexadecimal digit is plain ASCII. -/
theorem plainAscii_digitChar {n : Nat} (h : n < 16) :
    0x20 ≤ (Nat.digitChar n).toNat ∧ (Nat.digitChar n).toNat < 0x7f := by
  interval_cases n <;> decide

/-- The escape of a unit is plain ASCII. -/
theorem plainAscii_unitEscape (n : Nat) : Text.PlainAscii (unitEscape n) := by
  intro c hc
  simp only [unitEscape, Text.hexDigits, List.mem_cons, List.mem_map] at hc
  obtain rfl | rfl | ⟨i, -, rfl⟩ := hc
  · decide
  · decide
  · exact plainAscii_digitChar (Nat.mod_lt _ (by decide))

/-- What stands for a character is plain ASCII. -/
theorem plainAscii_encodeChar (c : Char) : Text.PlainAscii (encodeChar c) := by
  unfold encodeChar
  split_ifs with h1 h2 h3 h4 h5 h6 h7 hshown hunit
  iterate 7 · simp
  · simp [hshown]
  · exact plainAscii_unitEscape _
  · simp [plainAscii_unitEscape]

/-- A written text is plain ASCII. -/
theorem plainAscii_encodeText (s : String) : Text.PlainAscii (encodeText s) := by
  have hbody : Text.PlainAscii (s.toList.flatMap encodeChar) := by
    intro d hd
    obtain ⟨c, -, hd⟩ := List.mem_flatMap.mp hd
    exact plainAscii_encodeChar c d hd
  simpa [encodeText] using hbody

end Json

end VitaeShell
