import Mathlib.Data.List.DropRight
import Mathlib.Data.List.TakeWhile
import VitaeShell.Text.Blank
import VitaeShell.Text.Casing
import VitaeShell.Text.Search

/-!
# Characters of a text

What the functions on texts do to single characters and to stretches of them. A search for a stretch
succeeds exactly if the text has it; taking the blanks off the ends of a text keeps every other
character, and is done once and for all; and lowercasing keeps the characters that have no other
lowercase than themselves, and goes on behind the front of a text as if that were not there.

## Main results

* `occursIn_iff`: a search succeeds exactly if the stretch is in the text.
* `mem_trim_of_mem`: what is no blank stays.
* `trim_trim`: what is trimmed stays as it is.
* `mem_lower_of_mem`: what is its own lowercase stays.
* `exists_lower_append`: the front of a text is lowercased letter by letter.
-/

namespace VitaeShell.Text

/-- **A search for a stretch succeeds exactly if the text has it.** -/
theorem occursIn_iff {needle text : List Char} :
    occursIn needle text = true ↔ needle <:+: text := by
  rw [occursIn]
  induction text with
  | nil => simp [find?]
  | cons c rest ih =>
      rw [find?, List.infix_cons_iff, ← ih, ← List.isPrefixOf_iff_prefix]
      by_cases hstart : needle.isPrefixOf (c :: rest) = true
      · simp [hstart]
      · simp [hstart]

/-- What stands in texts put together stands in one of them, or separates them. -/
theorem mem_intercalate {separator : String} {texts : List String} {c : Char}
    (h : c ∈ (String.intercalate separator texts).toList) :
    c ∈ separator.toList ∨ ∃ text ∈ texts, c ∈ text.toList := by
  induction texts with
  | nil => simp at h
  | cons text rest ih =>
      cases rest with
      | nil =>
          right
          exact ⟨text, by simp, by simpa using h⟩
      | cons next rest =>
          rw [String.intercalate_cons_cons, String.toList_append, String.toList_append,
            List.mem_append, List.mem_append] at h
          rcases h with (h | h) | h
          · exact .inr ⟨text, by simp, h⟩
          · exact .inl h
          · rcases ih h with hseparator | ⟨other, hother, hc⟩
            · exact .inl hseparator
            · exact .inr ⟨other, .tail _ hother, hc⟩

/-- Taking blanks off the front keeps every other character. -/
theorem mem_trimStart_of_mem {c : Char} {cs : List Char} (h : c ∈ cs) (hc : isBlank c = false) :
    c ∈ trimStart cs := by
  rw [← List.takeWhile_append_dropWhile (p := isBlank) (l := cs), List.mem_append] at h
  rcases h with h | h
  · rw [List.mem_takeWhile_imp h] at hc
    cases hc
  · exact h

/-- Taking blanks off either end keeps every other character. -/
theorem mem_trim_of_mem {c : Char} {cs : List Char} (h : c ∈ cs) (hc : isBlank c = false) :
    c ∈ trim cs := by
  have hstart : c ∈ (trimStart cs).reverse := List.mem_reverse.mpr (mem_trimStart_of_mem h hc)
  exact List.mem_reverse.mpr (mem_trimStart_of_mem hstart hc)

/-- Taking blanks off either end adds nothing. -/
theorem trim_subset (cs : List Char) : trim cs ⊆ cs := by
  have hend : trim cs <+: trimStart cs := List.rdropWhile_prefix ..
  exact List.Subset.trans hend.subset (List.dropWhile_suffix _).subset

/-- What follows the leading blanks does not begin with one. -/
theorem isBlank_of_mem_head?_trimStart {cs : List Char} :
    ∀ c ∈ (trimStart cs).head?, isBlank c = false := by
  intro c hc
  have hhead := List.head?_dropWhile_not isBlank cs
  rw [← trimStart, hc] at hhead
  simpa using hhead

/-- A trimmed text does not begin with a blank. -/
theorem isBlank_of_mem_head?_trim {cs : List Char} : ∀ c ∈ (trim cs).head?, isBlank c = false := by
  intro c hc
  obtain ⟨rest, hrest⟩ : trim cs <+: trimStart cs := List.rdropWhile_prefix ..
  have hstart : (trimStart cs).head? = some c := by
    rw [← hrest, List.head?_append, hc, Option.some_or]
  exact isBlank_of_mem_head?_trimStart c hstart

/-- Nothing is taken off in front where no blank stands. -/
theorem trimStart_of_head? {cs : List Char} (h : ∀ c ∈ cs.head?, isBlank c = false) :
    trimStart cs = cs := by
  cases cs with
  | nil => rfl
  | cons c rest => rw [trimStart, List.dropWhile_cons_of_neg (by simp [h c rfl])]

/-- **What is trimmed stays as it is.** -/
theorem trim_trim (cs : List Char) : trim (trim cs) = trim cs := by
  rw [trim, trimStart_of_head? isBlank_of_mem_head?_trim]
  exact List.rdropWhile_idempotent ..

/-- To take off the blanks twice is to do it once. -/
theorem strip_strip (s : String) : strip (strip s) = strip s := by
  rw [strip, toList_strip, trim_trim, strip]

/-- A text with no blank at either end is a trimmed one. -/
theorem trim_eq_self_iff {cs : List Char} :
    trim cs = cs ↔ (∀ c ∈ cs.head?, isBlank c = false) ∧ ∀ c ∈ cs.getLast?, isBlank c = false := by
  constructor
  · intro h
    refine ⟨h ▸ isBlank_of_mem_head?_trim, fun c hc => ?_⟩
    obtain ⟨hne, rfl⟩ := List.mem_getLast?_eq_getLast hc
    have hlast : ∀ hne : trim cs ≠ [], ¬isBlank ((trim cs).getLast hne) = true :=
      List.rdropWhile_last_not isBlank (trimStart cs)
    simpa [h] using hlast (by rwa [h])
  · rintro ⟨hhead, hlast⟩
    rw [trim, trimStart_of_head? hhead]
    refine List.rdropWhile_eq_self_iff.mpr fun hne => ?_
    simp [hlast _ (List.getLast_mem_getLast? hne)]

/-- A text is blank if nothing is left of it. -/
theorem isBlankText_iff {s : String} : isBlankText s = true ↔ trim s.toList = [] := by
  rw [isBlankText, List.all_eq_true]
  constructor
  · intro h
    rw [trim, trimStart, List.dropWhile_eq_nil_iff.mpr h, trimEnd_nil]
  · intro h c hc
    rw [← Bool.not_eq_false]
    intro hblank
    have hkept := mem_trim_of_mem hc hblank
    rw [h] at hkept
    cases hkept

/-- Lowercasing keeps a character that is its own lowercase. -/
theorem mem_lowerFrom_of_mem {c : Char} {cs : List Char} (h : c ∈ cs) (hself : lowerLetter c = [c])
    (hsigma : c.toNat ≠ 0x3a3) (inWord : Bool) : c ∈ lowerFrom inWord cs := by
  induction cs generalizing inWord with
  | nil => cases h
  | cons d rest ih =>
      rw [lowerFrom, List.mem_append]
      rcases List.mem_cons.mp h with rfl | h
      · left
        simp [hsigma, hself]
      · exact .inr (ih h _)

/-- A character that has no other lowercase stays in the text. -/
theorem mem_lower_of_mem {c : Char} {cs : List Char} (h : c ∈ cs) (hself : lowerLetter c = [c])
    (hsigma : c.toNat ≠ 0x3a3) : c ∈ lower cs :=
  mem_lowerFrom_of_mem h hself hsigma false

/-- No letter has an empty lowercase. -/
theorem lowerFrom_eq_nil_iff {inWord : Bool} {cs : List Char} :
    lowerFrom inWord cs = [] ↔ cs = [] := by
  cases cs with
  | nil => simp [lowerFrom]
  | cons c rest =>
      simp only [lowerFrom, List.append_eq_nil_iff, reduceCtorEq, iff_false, not_and]
      intro h
      split at h
      · cases h
      · rw [lowerLetter] at h
        split at h
        · cases h
        · split at h <;> cases h

/-- **The front of a text is lowercased letter by letter**, whatever follows, as long as there is no
capital sigma in it. -/
theorem exists_lowerFrom_append {front : List Char} (h : ∀ c ∈ front, c.toNat ≠ 0x3a3)
    (inWord : Bool) (rest : List Char) :
    ∃ tail, lowerFrom inWord (front ++ rest) = front.flatMap lowerLetter ++ tail ∧
      (tail = [] ↔ rest = []) := by
  induction front generalizing inWord with
  | nil => exact ⟨lowerFrom inWord rest, rfl, lowerFrom_eq_nil_iff⟩
  | cons c front ih =>
      obtain ⟨tail, htail, hnil⟩ := ih (fun d hd => h d (.tail _ hd))
        (if isCaseIgnorable c then inWord else isCased c)
      have hsigma : c.toNat ≠ 0x3a3 := h c (.head _)
      refine ⟨tail, ?_, hnil⟩
      simp [lowerFrom, hsigma, htail]

/-- The front of a text without sigmas has its own lowercase, and something follows it if anything
follows the front. -/
theorem exists_lower_append {front : List Char} (h : ∀ c ∈ front, c.toNat ≠ 0x3a3)
    (rest : List Char) :
    ∃ tail, lower (front ++ rest) = front.flatMap lowerLetter ++ tail ∧
      (tail = [] ↔ rest = []) :=
  exists_lowerFrom_append h false rest

end VitaeShell.Text
