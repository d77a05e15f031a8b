import Mathlib.Data.List.DropRight
import VitaeShell.Proofs.Line.Argument

/-!
# Segments from free text

A segment is made from free text in several passes: blanks go from the ends, an underscore comes
for each run of unsafe characters, one underscore for each run of underscores, and underscores go
from the ends. No pass touches the letters, digits, points and hyphens; it takes away or exchanges
what stands between their runs (`segmentRuns`), or around them. In the end the runs stand one behind
the other, with a single underscore between any two.

## Main results

* `segmentRuns_kept`: the passes keep the runs.
* `IsTidy.eq_intercalate`: a tidy text of safe characters is its runs with single underscores
  between them.
* `sanitize_eq_of_runs`: what becomes of a free text, and what it is like.
-/

namespace VitaeShell

/-! ### The runs of a text -/

/-- A character of a run: an ASCII letter or digit, a point or a hyphen. -/
def isRunChar (c : Char) : Bool :=
  c.isAlphanum || c = '.' || c = '-'

/-- The runs of such characters, each as long as it goes, in the order of the text. -/
def segmentRuns (cs : List Char) : List (List Char) :=
  (cs.splitOnP fun c => !isRunChar c).filter fun run => !run.isEmpty

theorem isRunChar_underscore : isRunChar '_' = false := by decide

/-- Letters and digits are ASCII. -/
theorem toNat_lt_of_isAlphanum {c : Char} (h : c.isAlphanum = true) : c.toNat < 0x80 := by
  -- each range of letters or digits has a last character
  have hbelow (last : Char) (hlast : last.toNat < 0x80) (hle : c.val ≤ last.val) :
      c.toNat < 0x80 := Nat.lt_of_le_of_lt (UInt32.le_iff_toNat_le.mp hle) hlast
  rcases (Bool.or_eq_true _ _).mp h with halpha | hdigit
  · rcases (Bool.or_eq_true _ _).mp halpha with hupper | hlower
    · exact hbelow 'Z' (by decide) (of_decide_eq_true hupper).2
    · exact hbelow 'z' (by decide) (of_decide_eq_true ((Bool.and_eq_true _ _).mp hlower).2)
  · exact hbelow '9' (by decide) (of_decide_eq_true ((Bool.and_eq_true _ _).mp hdigit).2)

/-- The safe characters are those of runs, and the underscore. -/
theorem isSegmentChar_iff {c : Char} :
    isSegmentChar c = true ↔ isRunChar c = true ∨ c = '_' := by
  have hascii : c.isAlphanum = true → c.toNat < 0x80 := toNat_lt_of_isAlphanum
  simp only [isSegmentChar, isRunChar, Bool.or_eq_true, Bool.and_eq_true, decide_eq_true_eq]
  tauto

/-- A character that is not safe does not belong to a run. -/
theorem isRunChar_of_not_isSegmentChar {c : Char} (h : ¬isSegmentChar c = true) :
    isRunChar c = false := by
  rw [isSegmentChar_iff, not_or] at h
  exact Bool.eq_false_iff.mpr h.1

/-- Nor does a blank. -/
theorem isRunChar_of_isBlank {c : Char} (h : Text.isBlank c = true) : isRunChar c = false := by
  rw [Bool.eq_false_iff]
  intro hrun
  have hword : isWordChar c = true :=
    isWordChar_of_isSegmentChar (isSegmentChar_iff.mpr (.inl hrun))
  rw [isBlank_of_isWordChar hword] at h
  cases h

theorem segmentRuns_nil : segmentRuns [] = [] := rfl

/-- Where two tests agree on every character, they cut a text in the same way. -/
theorem splitOnP_congr {p q : Char → Bool} {cs : List Char} (h : ∀ c ∈ cs, p c = q c) :
    cs.splitOnP p = cs.splitOnP q := by
  induction cs with
  | nil => rfl
  | cons c rest ih =>
      rw [List.forall_mem_cons] at h
      rw [List.splitOnP_cons_eq_if_modifyHead, List.splitOnP_cons_eq_if_modifyHead, h.1, ih h.2]

/-- What is no character of a run divides the runs. -/
theorem segmentRuns_append_cons {c : Char} (h : isRunChar c = false) (front rest : List Char) :
    segmentRuns (front ++ c :: rest) = segmentRuns front ++ segmentRuns rest := by
  rw [segmentRuns, List.splitOnP_append_cons front rest (by simp [h]), List.filter_append]
  rfl

/-! ### What the passes keep -/

/-- To drop characters in front that belong to no run leaves the runs. -/
theorem segmentRuns_dropWhile {p : Char → Bool} (hp : ∀ c, p c = true → isRunChar c = false)
    (cs : List Char) : segmentRuns (cs.dropWhile p) = segmentRuns cs := by
  induction cs with
  | nil => rfl
  | cons c rest ih =>
      rw [List.dropWhile_cons]
      split
      · next hc => rw [ih]; exact (segmentRuns_append_cons (hp c hc) [] rest).symm
      · rfl

/-- So does dropping them at the end. -/
theorem segmentRuns_rdropWhile {p : Char → Bool} (hp : ∀ c, p c = true → isRunChar c = false)
    (cs : List Char) : segmentRuns (cs.rdropWhile p) = segmentRuns cs := by
  induction cs using List.reverseRecOn with
  | nil => rfl
  | append_singleton front c ih =>
      rw [List.rdropWhile_concat]
      split
      · next hc => rw [ih, segmentRuns_append_cons (hp c hc), segmentRuns_nil, List.append_nil]
      · rfl

/-- One underscore divides the runs as well as what it stands for, whatever stands in front; and
behind an underscore nothing more is needed. -/
theorem segmentRuns_replaceUnsafe (cs : List Char) :
    (∀ front, segmentRuns (front ++ replaceUnsafe false cs) = segmentRuns (front ++ cs)) ∧
      segmentRuns (replaceUnsafe true cs) = segmentRuns cs := by
  induction cs with
  | nil => exact ⟨fun front => rfl, rfl⟩
  | cons c rest ih =>
      obtain ⟨hopen, hinside⟩ := ih
      by_cases hc : isSegmentChar c = true
      · have hkeep (inRun : Bool) :
            replaceUnsafe inRun (c :: rest) = c :: replaceUnsafe false rest := by
          rw [replaceUnsafe, if_pos hc]
        have hnext (front : List Char) :
            segmentRuns (front ++ c :: replaceUnsafe false rest) =
              segmentRuns (front ++ c :: rest) := by
          simpa using hopen (front ++ [c])
        exact ⟨fun front => by rw [hkeep, hnext], by rw [hkeep]; exact hnext []⟩
      · have hrun : isRunChar c = false := isRunChar_of_not_isSegmentChar hc
        constructor
        · intro front
          rw [replaceUnsafe, if_neg hc, if_neg Bool.false_ne_true,
            segmentRuns_append_cons isRunChar_underscore, hinside, segmentRuns_append_cons hrun]
        · rw [replaceUnsafe, if_neg hc, if_pos rfl, hinside]
          exact (segmentRuns_append_cons hrun [] rest).symm

/-- To collapse underscores leaves them as well, whatever stands in front. -/
theorem segmentRuns_collapseUnderscores (cs front : List Char) :
    segmentRuns (front ++ collapseUnderscores cs) = segmentRuns (front ++ cs) := by
  fun_induction collapseUnderscores cs generalizing front with
  | case1 => rfl
  | case2 c => rfl
  | case3 c d rest hboth ih =>
      obtain ⟨rfl, rfl⟩ := hboth
      rw [ih, segmentRuns_append_cons isRunChar_underscore,
        segmentRuns_append_cons isRunChar_underscore]
      exact congrArg _ (segmentRuns_append_cons isRunChar_underscore [] rest).symm
  | case4 c d rest hboth ih => simpa using ih (front ++ [c])

/-- What the passes leave of a text. -/
def keptOf (cs : List Char) : List Char :=
  trimUnderscores (collapseUnderscores (replaceUnsafe false (Text.trim cs)))

/-- **The passes keep the runs.** -/
theorem segmentRuns_kept (cs : List Char) : segmentRuns (keptOf cs) = segmentRuns cs := by
  have hunderscore : ∀ c : Char, decide (c = '_') = true → isRunChar c = false := by
    intro c hc
    rw [of_decide_eq_true hc, isRunChar_underscore]
  have hblank : ∀ c, Text.isBlank c = true → isRunChar c = false := fun c => isRunChar_of_isBlank
  calc
    segmentRuns (keptOf cs)
      = segmentRuns (collapseUnderscores (replaceUnsafe false (Text.trim cs))) := by
        exact (segmentRuns_rdropWhile hunderscore _).trans (segmentRuns_dropWhile hunderscore _)
    _ = segmentRuns (Text.trim cs) := by
        exact (segmentRuns_collapseUnderscores _ []).trans ((segmentRuns_replaceUnsafe _).1 [])
    _ = segmentRuns cs := by
        exact (segmentRuns_rdropWhile hblank _).trans (segmentRuns_dropWhile hblank cs)

/-! ### Tidy texts -/

/-- A text is **tidy** if it neither begins nor ends with an underscore, nor has two of them next to
each other. -/
structure IsTidy (cs : List Char) : Prop where
  head? : cs.head? ≠ some '_'
  getLast? : cs.getLast? ≠ some '_'
  single : ¬['_', '_'] <:+: cs

/-- Two underscores in a row stand in front or further on. -/
theorem pair_infix_cons_iff {c : Char} {rest : List Char} :
    ['_', '_'] <:+: c :: rest ↔ c = '_' ∧ rest.head? = some '_' ∨ ['_', '_'] <:+: rest := by
  rw [List.infix_cons_iff, List.cons_prefix_cons, List.singleton_prefix_iff_head?_eq_some, eq_comm]

/-- The first character stays when underscores are collapsed. -/
theorem head?_collapseUnderscores (cs : List Char) :
    (collapseUnderscores cs).head? = cs.head? := by
  fun_induction collapseUnderscores cs with
  | case1 => rfl
  | case2 c => rfl
  | case3 c d rest hboth ih =>
      obtain ⟨rfl, rfl⟩ := hboth
      rw [ih]
      rfl
  | case4 c d rest hboth ih => rfl

/-- No two underscores in a row are left. -/
theorem collapseUnderscores_single (cs : List Char) : ¬['_', '_'] <:+: collapseUnderscores cs := by
  fun_induction collapseUnderscores cs with
  | case1 => simp
  | case2 c => simp [pair_infix_cons_iff]
  | case3 c d rest hboth ih => exact ih
  | case4 c d rest hboth ih =>
      rw [pair_infix_cons_iff, head?_collapseUnderscores]
      rintro (⟨hc, hd⟩ | hpair)
      · exact hboth ⟨hc, Option.some.inj hd⟩
      · exact ih hpair

/-- A text without two underscores in a row is tidy once those at the ends are gone. -/
theorem isTidy_trimUnderscores {cs : List Char} (h : ¬['_', '_'] <:+: cs) :
    IsTidy (trimUnderscores cs) := by
  have hcut : trimUnderscores cs = (cs.dropWhile (· = '_')).rdropWhile (· = '_') := rfl
  have hfront : trimUnderscores cs <+: cs.dropWhile (· = '_') := List.rdropWhile_prefix ..
  constructor
  · intro hhead
    obtain ⟨behind, hbehind⟩ := hfront
    have hstart : (cs.dropWhile (· = '_')).head? = some '_' := by
      rw [← hbehind, List.head?_append, hhead, Option.some_or]
    have hnot := List.head?_dropWhile_not (· = '_') cs
    rw [hstart] at hnot
    simp at hnot
  · intro hlast
    rw [hcut] at hlast
    have hne : (cs.dropWhile (· = '_')).rdropWhile (· = '_') ≠ [] := by
      intro hnil
      rw [hnil] at hlast
      cases hlast
    have hnot := List.rdropWhile_last_not (· = '_') (cs.dropWhile (· = '_')) hne
    rw [List.getLast_of_getLast?_eq_some hlast] at hnot
    simp at hnot
  · exact fun hpair => h (hpair.trans (hfront.isInfix.trans (List.dropWhile_suffix _).isInfix))

/-- What is kept of a text is tidy. -/
theorem isTidy_kept (cs : List Char) : IsTidy (keptOf cs) :=
  isTidy_trimUnderscores (collapseUnderscores_single _)

/-- Behind the first piece of a text between its underscores there is no empty one, if the text does
not end with an underscore and has no two of them next to each other. -/
theorem nil_notMem_tail_splitOn {cs : List Char} (hlast : cs.getLast? ≠ some '_')
    (hsingle : ¬['_', '_'] <:+: cs) : [] ∉ (cs.splitOn '_').tail := by
  induction cs with
  | nil => simp
  | cons c rest ih =>
      rw [pair_infix_cons_iff, not_or] at hsingle
      rw [List.splitOn_cons_eq_if_modifyHead]
      have hrest : rest.getLast? ≠ some '_' := by
        cases rest with
        | nil => simp
        | cons d more => simpa using hlast
      split
      · next hc =>
          obtain rfl : c = '_' := eq_of_beq hc
          -- behind an underscore stands something else
          obtain ⟨d, more, rfl⟩ : ∃ d more, rest = d :: more := by
            refine List.exists_cons_of_ne_nil ?_
            rintro rfl
            exact hlast rfl
          have hd : (d == '_') = false :=
            beq_eq_false_iff_ne.mpr fun hd => hsingle.1 ⟨rfl, by simp [hd]⟩
          have hpieces := ih hrest hsingle.2
          rw [List.splitOn_cons_eq_if_modifyHead, hd] at hpieces ⊢
          obtain ⟨piece, pieces, hsplit⟩ :=
            List.exists_cons_of_ne_nil (List.splitOn_ne_nil '_' more)
          simpa [hsplit] using hpieces
      · rw [List.tail_modifyHead]
        exact ih hrest hsingle.2

/-- **A tidy text of safe characters is its runs** with single underscores between them. -/
theorem IsTidy.eq_intercalate {cs : List Char} (h : IsTidy cs) (hne : cs ≠ [])
    (hsafe : ∀ c ∈ cs, isSegmentChar c = true) :
    ['_'].intercalate (segmentRuns cs) = cs := by
  have hpieces : (cs.splitOnP fun c => !isRunChar c) = cs.splitOn '_' := by
    rw [List.splitOn_eq_splitOnP]
    refine splitOnP_congr fun c hc => ?_
    rcases isSegmentChar_iff.mp (hsafe c hc) with hrun | rfl
    · have hother : c ≠ '_' := by
        rintro rfl
        rw [isRunChar_underscore] at hrun
        cases hrun
      simp [hrun, hother]
    · rfl
  have hnil : [] ∉ cs.splitOn '_' := by
    obtain ⟨c, rest, rfl⟩ := List.exists_cons_of_ne_nil hne
    have hc : (c == '_') = false := beq_eq_false_iff_ne.mpr fun hc => h.head? (by simp [hc])
    have htail := nil_notMem_tail_splitOn h.getLast? h.single
    obtain ⟨piece, pieces, hsplit⟩ := List.exists_cons_of_ne_nil (List.splitOn_ne_nil '_' rest)
    rw [List.splitOn_cons_eq_if_modifyHead, hc, hsplit] at htail ⊢
    simpa using htail
  have hruns : segmentRuns cs = cs.splitOn '_' := by
    rw [segmentRuns, hpieces, List.filter_eq_self]
    intro run hrun
    simpa using ne_of_mem_of_not_mem hrun hnil
  rw [hruns, List.intercalate_splitOn]

/-! ### What becomes of a text -/

/-- What is kept of a text is safe. -/
theorem isSegmentChar_of_mem_kept (cs : List Char) : ∀ c ∈ keptOf cs, isSegmentChar c = true :=
  fun c hc => isSegmentChar_of_mem_replaceUnsafe c
    ((collapseUnderscores_sublist _).subset (trimUnderscores_subset _ hc))

/-- The passes leave nothing exactly where there is no run. -/
theorem kept_eq_nil_iff {cs : List Char} : keptOf cs = [] ↔ segmentRuns cs = [] := by
  constructor
  · intro hnil
    rw [← segmentRuns_kept, hnil, segmentRuns_nil]
  · intro hnone
    by_contra hne
    have hkept := (isTidy_kept cs).eq_intercalate hne (isSegmentChar_of_mem_kept cs)
    rw [segmentRuns_kept, hnone] at hkept
    exact hne hkept.symm

/-- A text without a run becomes `company`. -/
theorem sanitize_of_eq_nil {text : String} (h : segmentRuns text.toList = []) :
    sanitize text = "company" := by
  have hnil : keptOf text.toList = [] := kept_eq_nil_iff.mpr h
  change (if (keptOf text.toList).isEmpty then fallbackSegment
    else String.ofList (keptOf text.toList)) = _
  rw [hnil]
  rfl

/-- A text with a run becomes what is kept of it. -/
theorem toList_sanitize {text : String} (h : segmentRuns text.toList ≠ []) :
    (sanitize text).toList = keptOf text.toList := by
  have hne : ¬(keptOf text.toList).isEmpty := by
    rwa [List.isEmpty_iff, kept_eq_nil_iff]
  change (if (keptOf text.toList).isEmpty then fallbackSegment
    else String.ofList (keptOf text.toList)).toList = _
  rw [if_neg hne, String.toList_ofList]

/-- A text with runs becomes these runs with single underscores between them. -/
theorem sanitize_of_ne_nil {text : String} (h : segmentRuns text.toList ≠ []) :
    sanitize text = String.intercalate "_" ((segmentRuns text.toList).map String.ofList) := by
  have hne : keptOf text.toList ≠ [] := mt kept_eq_nil_iff.mp h
  have hkept := (isTidy_kept text.toList).eq_intercalate hne (isSegmentChar_of_mem_kept _)
  rw [segmentRuns_kept] at hkept
  rw [← String.toList_inj, toList_sanitize h, String.toList_intercalate, List.map_map]
  simpa [Function.comp_def] using hkept.symm

/-- What becomes of a text has the runs of that text. -/
theorem segmentRuns_sanitize {text : String} (h : segmentRuns text.toList ≠ []) :
    segmentRuns (sanitize text).toList = segmentRuns text.toList := by
  rw [toList_sanitize h, segmentRuns_kept]

/-- **What becomes of a free text.** Its runs of letters, digits, points and hyphens stand one
behind the other with single underscores between them; a text without any gives the name of last
resort. In either case the segment is not empty, consists of safe characters, has no underscore at
an end or next to another one, and is what becomes of itself. -/
theorem sanitize_eq_of_runs (text : String) :
    let runs := segmentRuns text.toList
    let name := sanitize text
    name = (if runs = [] then "company" else String.intercalate "_" (runs.map String.ofList)) ∧
    name ≠ "" ∧ IsSegment name ∧ IsTidy name.toList ∧ sanitize name = name := by
  intro runs name
  have hsafe : IsSegment name := isSegment_sanitize text
  by_cases hnone : runs = []
  · have hname : name = "company" := sanitize_of_eq_nil hnone
    -- the name of last resort is a run of its own
    have hkept : keptOf "company".toList = "company".toList := by decide
    have htidy : IsTidy "company".toList := hkept ▸ isTidy_kept _
    have hself : sanitize "company" = "company" := by decide
    rw [if_pos hnone]
    rw [hname] at hsafe ⊢
    exact ⟨rfl, by decide, hsafe, htidy, hself⟩
  · have hname : name = String.intercalate "_" (runs.map String.ofList) := sanitize_of_ne_nil hnone
    have hkept : name.toList = keptOf text.toList := toList_sanitize hnone
    have hruns : segmentRuns name.toList = runs := segmentRuns_sanitize hnone
    rw [if_neg hnone]
    refine ⟨hname, ?_, hsafe, hkept ▸ isTidy_kept _, ?_⟩
    · intro hempty
      rw [hempty] at hkept
      exact hnone (kept_eq_nil_iff.mp hkept.symm)
    · rw [sanitize_of_ne_nil (hruns ▸ hnone), hruns, ← hname]

end VitaeShell
