import Mathlib.Data.List.Basic
import VitaeShell.Path

/-!
# Safe segments and joined paths

A name whose characters are all safe holds no slash and no blank, so that it can stand in a path and
in a line of words (`IsSegment`). What `sanitize` makes of a text is such a name, and so is a
number; what is put together from such names is again one. A path of names without slashes can be
read off its text, and two such paths with one text are the same.

## Main results

* `isSegment_sanitize`: whatever the text, what becomes of it is safe.
* `number_injective`: a number at the end of a name, behind an underscore, can be read off.
* `Path.pieces_intercalate`: the names of a path are the pieces of its text.
-/

namespace VitaeShell

/-- A name of safe characters only. -/
def IsSegment (name : String) : Prop :=
  ∀ c ∈ name.toList, isSegmentChar c = true

instance (name : String) : Decidable (IsSegment name) :=
  List.decidableBAll (fun c => isSegmentChar c = true) name.toList

/-- A character that is not safe is not in a safe name. -/
theorem IsSegment.notMem {name : String} {c : Char} (h : IsSegment name)
    (hc : isSegmentChar c = false) : c ∉ name.toList := by
  intro hmem
  rw [h c hmem] at hc
  cases hc

/-- Two segments are one together. -/
theorem IsSegment.append {s t : String} (hs : IsSegment s) (ht : IsSegment t) :
    IsSegment (s ++ t) := by
  intro c hc
  rw [String.toList_append, List.mem_append] at hc
  exact hc.elim (hs c) (ht c)

/-! ### Numbers -/

/-- A number is written with its decimal digits. -/
theorem toList_toString_nat (n : Nat) : (toString n).toList = Nat.toDigits 10 n := by
  rw [Nat.toString_eq_repr, Nat.toList_repr]

/-- There are only digits in a number. -/
theorem isDigit_of_mem_toString {n : Nat} {c : Char} (h : c ∈ (toString n).toList) :
    c.isDigit = true := by
  rw [toList_toString_nat] at h
  exact Nat.isDigit_of_mem_toDigits (by decide) (by decide) h

/-- A number is a segment. -/
theorem isSegment_toString (n : Nat) : IsSegment (toString n) := by
  intro c hc
  have hdigit : c.isDigit = true := isDigit_of_mem_toString hc
  have hascii : c.toNat < 0x80 := by
    simp only [Char.isDigit, Bool.and_eq_true, decide_eq_true_eq] at hdigit
    have : c.toNat ≤ 57 := hdigit.2
    omega
  simp [isSegmentChar, Char.isAlphanum, hdigit, hascii]

/-- Different numbers are written differently. -/
theorem toString_nat_injective {m n : Nat} (h : toString m = toString n) : m = n := by
  have hdigits : Nat.toDigits 10 m = Nat.toDigits 10 n := by
    rw [← toList_toString_nat, h, toList_toString_nat]
  calc
    m = Nat.ofDigitChars 10 (Nat.toDigits 10 m) 0 := Nat.ofDigitChars_ten_toDigits.symm
    _ = Nat.ofDigitChars 10 (Nat.toDigits 10 n) 0 := by rw [hdigits]
    _ = n := Nat.ofDigitChars_ten_toDigits

/-! ### Free text -/

/-- What replaces the unsafe characters is safe. -/
theorem isSegmentChar_of_mem_replaceUnsafe {cs : List Char} {inRun : Bool} :
    ∀ c ∈ replaceUnsafe inRun cs, isSegmentChar c = true := by
  induction cs generalizing inRun with
  | nil => simp [replaceUnsafe]
  | cons d rest ih =>
      intro c hc
      rw [replaceUnsafe] at hc
      split at hc
      · next hsafe =>
          rcases List.mem_cons.mp hc with rfl | hc
          · exact hsafe
          · exact ih c hc
      · split at hc
        · exact ih c hc
        · rcases List.mem_cons.mp hc with rfl | hc
          · decide
          · exact ih c hc

/-- To collapse underscores takes characters away and adds none. -/
theorem collapseUnderscores_sublist (cs : List Char) : (collapseUnderscores cs).Sublist cs := by
  induction cs using collapseUnderscores.induct with
  | case1 => exact List.Sublist.refl _
  | case2 c => exact List.Sublist.refl _
  | case3 c d rest hboth ih =>
      rw [collapseUnderscores, if_pos hboth]
      exact ih.cons c
  | case4 c d rest hboth ih =>
      rw [collapseUnderscores, if_neg hboth]
      exact ih.cons_cons c

/-- So does taking off the underscores at the ends. -/
theorem trimUnderscores_subset (cs : List Char) : trimUnderscores cs ⊆ cs := by
  intro c hc
  have hkept := (List.dropWhile_suffix (· = '_')).subset (List.mem_reverse.mp hc)
  exact (List.dropWhile_suffix (· = '_')).subset (List.mem_reverse.mp hkept)

/-- **Whatever the text, what becomes of it is safe.** -/
theorem isSegment_sanitize (text : String) : IsSegment (sanitize text) := by
  intro c hc
  rw [sanitize] at hc
  split at hc
  · have hfallback : IsSegment fallbackSegment := by decide
    exact hfallback c hc
  · rw [String.toList_ofList] at hc
    exact isSegmentChar_of_mem_replaceUnsafe c
      ((collapseUnderscores_sublist _).subset (trimUnderscores_subset _ hc))

/-! ### Endings -/

/-- What follows the last place of a character in a text can be read off. -/
theorem eq_of_append_cons_eq {α : Type} {c : α} {before before' after after' : List α}
    (h : c ∉ after) (h' : c ∉ after') (heq : before ++ c :: after = before' ++ c :: after') :
    after = after' := by
  rcases List.append_eq_append_iff.mp heq with ⟨between, -, hafter⟩ | ⟨between, -, hafter⟩
  all_goals
    cases between with
    | nil => simp_all
    | cons d between =>
        simp only [List.cons_append, List.cons.injEq] at hafter
        simp_all

/-- Names that end in an underscore and a number have one name only for one number. -/
theorem number_injective {s t : String} {m n : Nat}
    (h : s ++ "_" ++ toString m = t ++ "_" ++ toString n) : m = n := by
  have hnumber (k : Nat) : '_' ∉ (toString k).toList := fun hmem => by
    have := isDigit_of_mem_toString hmem
    revert this
    decide
  have hlists : s.toList ++ '_' :: (toString m).toList =
      t.toList ++ '_' :: (toString n).toList := by
    simpa using congrArg String.toList h
  exact toString_nat_injective
    (String.toList_inj.mp (eq_of_append_cons_eq (hnumber m) (hnumber n) hlists))

/-! ### Paths as texts -/

namespace Path

/-- **The names of a path are the pieces of its text**, if none holds a slash. -/
theorem pieces_intercalate {path : Path} (hne : path ≠ [])
    (h : ∀ segment ∈ path, '/' ∉ segment.toList) :
    pieces (String.intercalate "/" path) = path := by
  have hslash : ∀ cs ∈ path.map String.toList, '/' ∉ cs := by
    intro cs hcs
    obtain ⟨segment, hsegment, rfl⟩ := List.mem_map.mp hcs
    exact h segment hsegment
  have hsplit : (String.intercalate "/" path).toList.splitOn '/' = path.map String.toList := by
    rw [String.toList_intercalate]
    exact List.splitOn_intercalate '/' hslash (by simpa using hne)
  rw [pieces, hsplit, List.map_map]
  simp [Function.comp_def]

/-- Two paths with one text are the same. -/
theorem intercalate_injective {p q : Path} (hp : p ≠ []) (hq : q ≠ [])
    (hp' : ∀ segment ∈ p, '/' ∉ segment.toList) (hq' : ∀ segment ∈ q, '/' ∉ segment.toList)
    (h : String.intercalate "/" p = String.intercalate "/" q) : p = q := by
  rw [← pieces_intercalate hp hp', h, pieces_intercalate hq hq']

end Path

end VitaeShell
