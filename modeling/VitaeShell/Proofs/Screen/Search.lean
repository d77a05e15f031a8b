import Mathlib.Algebra.Ring.Int.Defs
import Mathlib.Order.Bounds.Basic
import VitaeShell.Proofs.Fallible
import VitaeShell.Proofs.Text.Lowercase
import VitaeShell.Screen.Search

/-!
# Search results on the screen

A row of search results shows a line with the keyword marked. However the marks fall, the row reads
as the line: the pieces of the row, put together, are the line, character for character
(`reading_highlight`).

The marks stand where the keyword is found in the lowercase of the line, again and again from the
end of the last occurrence (`Text.IsPlaces`). That is the right place in the line as long as
lowercasing has not made anything before it longer; and what is marked then is the keyword but for
its case, if the sigmas at its ends are no others than on their own.

## Main results

* `exists_marks_markFrom`: where the marks of a row stand, and what they hold.
* `marks_highlight`: the marks of a keyword.
* `Search.plainRows_draw`: what the rows of a search say.
-/

namespace VitaeShell

/-! ### Finding a stretch again and again -/

namespace Text

variable {needle text : List Char} {start : Nat}

/-- A stretch that is not found stands nowhere in the text. -/
theorem find?_eq_none (h : find? needle text = none) (place : Nat) :
    ¬needle <+: text.drop place := by
  intro hprefix
  have hinfix : needle <:+: text := hprefix.isInfix.trans (List.drop_suffix place text).isInfix
  have hoccurs := occursIn_iff.mpr hinfix
  rw [occursIn, h] at hoccurs
  cases hoccurs

/-- A stretch is found where it occurs first. -/
theorem find?_eq_some (h : find? needle text = some start) :
    needle <+: text.drop start ∧ ∀ place < start, ¬needle <+: text.drop place := by
  induction text generalizing start with
  | nil =>
      rw [find?] at h
      split at h
      · next hempty =>
          obtain rfl := Option.some.inj h
          obtain rfl := List.isEmpty_iff.mp hempty
          simp
      · cases h
  | cons c rest ih =>
      rw [find?] at h
      split at h
      · next hprefix =>
          obtain rfl := Option.some.inj h
          exact ⟨List.isPrefixOf_iff_prefix.mp hprefix, by simp⟩
      · next hprefix =>
          obtain ⟨before, hbefore, rfl⟩ := Option.map_eq_some_iff.mp h
          obtain ⟨hfound, hfirst⟩ := ih hbefore
          refine ⟨hfound, fun place hplace => ?_⟩
          cases place with
          | zero => exact mt List.isPrefixOf_iff_prefix.mpr hprefix
          | succ place => exact hfirst place (by omega)

/-- The **places** where a stretch is found in a text, again and again from the end of the last
occurrence. These occurrences do not overlap, and any other one begins inside one of them. -/
structure IsPlaces (needle text : List Char) (places : List Nat) : Prop where
  occurs : ∀ place ∈ places, needle <+: text.drop place
  apart : places.Pairwise fun place next => place + needle.length ≤ next
  covers : ∀ place, needle <+: text.drop place →
    ∃ found ∈ places, found ≤ place ∧ place < found + needle.length

theorem isPlaces_nil (h : find? needle text = none) : IsPlaces needle text [] :=
  ⟨by simp, .nil, fun place hplace => absurd hplace (find?_eq_none h place)⟩

/-- The first place, and then those in what follows the occurrence. -/
theorem IsPlaces.cons {places : List Nat} (h : find? needle text = some start)
    (hrest : IsPlaces needle (text.drop (start + needle.length)) places) :
    IsPlaces needle text (start :: places.map (start + needle.length + ·)) := by
  obtain ⟨hfound, hfirst⟩ := find?_eq_some h
  constructor
  · rw [List.forall_mem_cons, List.forall_mem_map]
    refine ⟨hfound, fun place hplace => ?_⟩
    have hoccurs := hrest.occurs place hplace
    rwa [List.drop_drop] at hoccurs
  · rw [List.pairwise_cons, List.forall_mem_map, List.pairwise_map]
    refine ⟨fun place _ => by omega, hrest.apart.imp fun hle => by omega⟩
  · -- an occurrence begins inside the first one, or it is one of what follows
    intro place hplace
    by_cases hbehind : place < start + needle.length
    · refine ⟨start, .head _, ?_, hbehind⟩
      by_contra hbefore
      exact hfirst place (by omega) hplace
    · obtain ⟨further, rfl⟩ : ∃ further, place = start + needle.length + further :=
        ⟨place - (start + needle.length), by omega⟩
      rw [← List.drop_drop] at hplace
      obtain ⟨found, hmem, hle, hlt⟩ := hrest.covers further hplace
      exact ⟨start + needle.length + found, .tail _ (List.mem_map_of_mem hmem), by omega, by omega⟩

/-- A stretch has a place in a text exactly if the text has it. -/
theorem IsPlaces.ne_nil_iff {places : List Nat} (h : IsPlaces needle text places) :
    places ≠ [] ↔ needle <:+: text := by
  constructor
  · intro hne
    obtain ⟨place, hplace⟩ := List.exists_mem_of_ne_nil places hne
    exact (h.occurs place hplace).isInfix.trans (List.drop_suffix place text).isInfix
  · rintro ⟨front, behind, rfl⟩
    obtain ⟨found, hfound, -⟩ := h.covers front.length (by
      rw [List.append_assoc, List.drop_left]
      exact List.prefix_append ..)
    exact List.ne_nil_of_mem hfound

/-! ### What is found in the lowercase of a text -/

/-- What is found in the lowercase of a text lies within the text, if nothing up to its end is
longer in lowercase. -/
theorem le_length_of_occurs {place : Nat} (hne : needle ≠ [])
    (hplain : dottedI ∉ text.take (place + needle.length))
    (hoccurs : needle <+: (lower text).drop place) : place + needle.length ≤ text.length := by
  by_contra hshort
  rw [List.take_of_length_le (by omega)] at hplain
  have hlower : (lower text).length = text.length := by
    rw [length_lower, List.count_eq_zero_of_not_mem hplain, Nat.add_zero]
  have hfits := hoccurs.length_le
  rw [List.length_drop, hlower] at hfits
  have hpos : 0 < needle.length := List.length_pos_of_ne_nil hne
  omega

/-- What is found there is the lowercase of the stretch that stands in its place. -/
theorem lowerWithin_eq_of_occurs {front stretch behind : List Char}
    (hplain : dottedI ∉ front ++ stretch) (hlength : stretch.length = needle.length)
    (hoccurs : needle <+: (lower (front ++ stretch ++ behind)).drop front.length) :
    lowerWithin (inWordAfter false front) behind stretch = needle := by
  rw [List.mem_append, not_or] at hplain
  have hfront : front.length = (lowerWithin false (stretch ++ behind) front).length := by
    rw [length_lowerWithin, List.count_eq_zero_of_not_mem hplain.1, Nat.add_zero]
  rw [lower_append, hfront, List.drop_left] at hoccurs
  obtain ⟨tail, htail⟩ := hoccurs
  refine ((List.append_inj htail ?_).1).symm
  rw [length_lowerWithin, List.count_eq_zero_of_not_mem hplain.2, Nat.add_zero, hlength]

/-- A stretch that is found in the lowercase of a text is the lowercase of what stands in its place,
exactly if that keeps its sigmas there. -/
theorem lower_eq_iff_of_occurs {place : Nat} (hne : needle ≠ [])
    (hplain : dottedI ∉ text.take (place + needle.length))
    (hoccurs : needle <+: (lower text).drop place) :
    lower ((text.drop place).take needle.length) = needle ↔
      KeepsSigmas (text.take place) ((text.drop place).take needle.length)
        (text.drop (place + needle.length)) := by
  have hfits := le_length_of_occurs hne hplain hoccurs
  have hfront : (text.take place).length = place := List.length_take_of_le (by omega)
  have hstretch : ((text.drop place).take needle.length).length = needle.length := by
    rw [List.length_take, List.length_drop]
    omega
  have htake : text.take place ++ (text.drop place).take needle.length =
      text.take (place + needle.length) := List.take_add.symm
  have hcut : text.take place ++ (text.drop place).take needle.length ++
      text.drop (place + needle.length) = text := by
    rw [htake, List.take_append_drop]
  have hwithin : lowerWithin (inWordAfter false (text.take place))
      (text.drop (place + needle.length)) ((text.drop place).take needle.length) = needle :=
    lowerWithin_eq_of_occurs (by rwa [htake]) hstretch (by rwa [hcut, hfront])
  rw [← lowerWithin_eq_lower_iff, hwithin]
  exact eq_comm

end Text

/-! ### What a row with marks says -/

/-- The text of a row, without the codes. -/
def Row.reading (row : Row) : String :=
  String.join (row.map (·.text))

/-- The stretches of a row that are marked as a keyword, each with its place in the text that the
row is part of; the row begins at a place of that text. -/
def Row.marks (place : Nat) : Row → List (Nat × String)
  | [] => []
  | piece :: rest =>
    (if piece.codes = markCodes then [(place, piece.text)] else []) ++
      marks (place + piece.text.length) rest

/-- The text of a row is that of its first piece and of the others. -/
theorem Row.reading_cons (piece : Piece) (rest : Row) :
    reading (piece :: rest) = piece.text ++ reading rest := by
  simp [reading, String.join_cons]

variable {c : Char} {cs text lowered : List Char}

/-- **Marking a keyword keeps the text.** -/
theorem reading_markFrom (c : Char) (cs text lowered : List Char) :
    (markFrom c cs text lowered).reading = String.ofList text := by
  fun_induction markFrom c cs text lowered with
  | case1 text lowered h => simp [Row.reading, Piece.bare]
  | case2 text lowered start h stop ih =>
      have hstart : text.take start = (text.take stop).take start := by
        rw [List.take_take, Nat.min_eq_left (by omega)]
      rw [Row.reading_cons, Row.reading_cons, ih, Piece.bare, ← String.ofList_append,
        ← String.ofList_append, ← List.append_assoc, hstart, List.take_append_drop,
        List.take_append_drop]

/-- A bare piece moves the marks behind it on. -/
theorem Row.marks_bare (place : Nat) (text : String) (rest : Row) :
    marks place (.bare text :: rest) = marks (place + text.length) rest := rfl

/-- A mark stands where the piece does. -/
theorem Row.marks_mark (place : Nat) (text : String) (rest : Row) :
    marks place (⟨markCodes, text⟩ :: rest) =
      (place, text) :: marks (place + text.length) rest := rfl

/-- **Where the marks stand, and what they hold.** A row marks what its text has at the places where
the keyword is found in the other text, as far as there is any text. -/
theorem exists_marks_markFrom (c : Char) (cs text lowered : List Char) (base : Nat) :
    ∃ places, Text.IsPlaces (c :: cs) lowered places ∧
      (markFrom c cs text lowered).marks base = places.map fun place =>
        (base + min place text.length,
          String.ofList ((text.drop place).take (c :: cs).length)) := by
  fun_induction markFrom c cs text lowered generalizing base with
  | case1 text lowered h => exact ⟨[], Text.isPlaces_nil h, rfl⟩
  | case2 text lowered start h stop ih =>
      obtain ⟨others, hothers, hmarks⟩ := ih (base + min stop text.length)
      have hstop : stop = start + (c :: cs).length := rfl
      refine ⟨start :: others.map (stop + ·), hothers.cons h, ?_⟩
      have hpiece : (text.take stop).drop start = (text.drop start).take (c :: cs).length := by
        rw [List.drop_take, hstop, Nat.add_sub_cancel_left]
      -- a place may lie behind the end of the text: what is cut there is empty
      have hbase : base + (text.take start).length + ((text.take stop).drop start).length =
          base + min stop text.length := by
        rw [List.length_drop, List.length_take, List.length_take]
        omega
      rw [Row.marks_bare, Row.marks_mark, String.length_ofList, String.length_ofList, hbase,
        hmarks, hpiece, List.length_take, List.map_cons, List.map_map]
      congr 1
      refine List.map_congr_left fun place _ => ?_
      simp only [Function.comp_apply, List.length_drop, List.drop_drop, Prod.mk.injEq, and_true]
      omega

/-- Highlighting does not change the text. -/
theorem reading_highlight (text keyword : String) : (highlight text keyword).reading = text := by
  rw [highlight]
  split
  · simp [Row.reading, Piece.bare]
  · rw [reading_markFrom, String.ofList_toList]

/-- **The marks of a keyword.** Marks take nothing from a text and add nothing to it. There are some
exactly if the lowercase of the text has the keyword, and they stand in the order of the places
where it is found there, none of which overlap. A mark is as long as the keyword, unless a dotted
capital I precedes its end, which is longer in lowercase. What is marked is then the keyword in
lowercase, exactly if it keeps its sigmas in the text. -/
theorem marks_highlight {keyword : String} (hkeyword : keyword ≠ "") (text : String) :
    let marks := (highlight text keyword).marks 0
    (highlight text keyword).reading = text ∧
    (marks ≠ [] ↔ keyword.toList <:+: Text.lower text.toList) ∧
    ∃ places, Text.IsPlaces keyword.toList (Text.lower text.toList) places ∧
      marks = places.map (fun place =>
        (min place text.length, String.ofList ((text.toList.drop place).take keyword.length))) ∧
      ∀ place ∈ places, Text.dottedI ∉ text.toList.take (place + keyword.length) →
        let stretch := (text.toList.drop place).take keyword.length
        stretch.length = keyword.length ∧
        (Text.lower stretch = keyword.toList ↔
          Text.KeepsSigmas (text.toList.take place) stretch
            (text.toList.drop (place + keyword.length))) := by
  intro marks
  obtain ⟨c, cs, hchars⟩ : ∃ c cs, keyword.toList = c :: cs :=
    List.exists_cons_of_ne_nil (by simpa using hkeyword)
  have hne : keyword.toList ≠ [] := by
    rw [hchars]
    exact List.cons_ne_nil c cs
  obtain ⟨places, hplaces, hmarks⟩ :=
    exists_marks_markFrom c cs text.toList (Text.lower text.toList) 0
  have hdrawn : marks = places.map fun place =>
      (min place text.length, String.ofList ((text.toList.drop place).take keyword.length)) := by
    simp only [marks, highlight, hchars, hmarks, ← String.length_toList, Nat.zero_add]
  rw [← hchars] at hplaces
  refine ⟨reading_highlight text keyword, ?_, places, hplaces, hdrawn,
    fun place hplace hplain => ?_⟩
  · rw [hdrawn, ne_eq, List.map_eq_nil_iff]
    exact hplaces.ne_nil_iff
  · have hoccurs := hplaces.occurs place hplace
    rw [← String.length_toList] at hplain ⊢
    have hfits := Text.le_length_of_occurs hne hplain hoccurs
    refine ⟨?_, Text.lower_eq_iff_of_occurs hne hplain hoccurs⟩
    rw [List.length_take, List.length_drop]
    omega

/-- A final sigma is marked for what it is, and what follows does no harm. -/
theorem marks_highlight_street :
    "ος" ≠ "" ∧ "ος".toList <:+: Text.lower "ΟΔΟΣ İ".toList ∧
      (highlight "ΟΔΟΣ İ" "ος").reading = "ΟΔΟΣ İ" ∧ (highlight "ΟΔΟΣ İ" "ος").marks 0 ≠ [] := by
  have hkeyword : "ος" ≠ "" := by decide
  have hinfix : "ος".toList <:+: Text.lower "ΟΔΟΣ İ".toList := by decide +kernel
  obtain ⟨hreading, hsome, -⟩ := marks_highlight hkeyword "ΟΔΟΣ İ"
  exact ⟨hkeyword, hinfix, hreading, hsome.mpr hinfix⟩

/-- **A dotted capital I moves the marks behind it**: here the mark stands behind the text, and is
empty. -/
theorem marks_highlight_dotted :
    "a" ≠ "" ∧ Text.lowercase "a" = "a" ∧ "a".toList <:+: Text.lower "İa".toList ∧
      (highlight "İa" "a").marks 0 = [(2, "")] := by
  have hlower : Text.lower "İa".toList = ['i', '\u0307', 'a'] := by decide +kernel
  have hfound : Text.find? ['a'] ['i', '\u0307', 'a'] = some 2 := by decide
  have hrow : highlight "İa" "a" = [.bare "İa", ⟨markCodes, ""⟩, .bare ""] := by
    change markFrom 'a' [] "İa".toList (Text.lower "İa".toList) = _
    rw [hlower, markFrom]
    split
    · next h => exact absurd (h.symm.trans hfound) (by simp)
    · next start h =>
        obtain rfl : start = 2 := Option.some.inj (h.symm.trans hfound)
        have hrest : markFrom 'a' [] [] [] = [.bare ""] := by
          rw [markFrom]
          split
          · rfl
          · next h => cases h
        exact congrArg (Piece.bare "İa" :: ⟨markCodes, ""⟩ :: ·) hrest
  refine ⟨by decide, by decide, by rw [hlower]; decide, ?_⟩
  rw [hrow]
  decide

/-! ### Rows -/

/-- The greatest of some numbers, found by going through them. -/
theorem isGreatest_foldl_max {numbers : List Nat} (hne : numbers ≠ []) :
    IsGreatest {n | n ∈ numbers} (numbers.foldl max 0) := by
  have hmax : numbers.max? = some (numbers.foldl max 0) := by
    cases numbers with
    | nil => exact absurd rfl hne
    | cons n rest => rw [List.max?_cons', List.foldl_cons, Nat.zero_max]
  obtain ⟨hmem, hle⟩ := List.max?_eq_some_iff.mp hmax
  exact ⟨hmem, fun n hn => hle n hn⟩

namespace Search

/-- A **finding**: a match of texts. -/
structure Finding where
  path : String
  line : Int
  content : String
  keyword : String

/-- The match of a payload that a finding makes. -/
def Finding.toMatch (found : Finding) : GrepMatch :=
  ⟨.text found.path, found.line, .text found.content, .text found.keyword⟩

/-- A text is shown as the highlight has it, an empty keyword or not. -/
theorem markedLine_text (content keyword : String) :
    markedLine (.text content) (.text keyword) = .ok (highlight content keyword) := by
  rw [markedLine]
  split
  · next hblank =>
      have hkeyword : keyword = "" := by simpa [Json.isSubstantial] using hblank
      rw [hkeyword]
      rfl
  · rfl

variable {line : Int}

/-- A number of no more digits than that is written in decimal. -/
theorem numberText_eq_ok (h : (Nat.toDigits 10 line.natAbs).length ≤ Numeral.maxDigits) :
    numberText line = .ok (toString line) :=
  if_neg (Nat.not_lt.mpr h)

/-- A number of more digits is refused, and nothing else is. -/
theorem numberText_eq_error_iff {fault : SearchFault} :
    numberText line = .error fault ↔
      Numeral.maxDigits < (Nat.toDigits 10 line.natAbs).length ∧ fault = .numberTooLong := by
  rw [numberText]
  split
  · next hlong => simp [hlong, eq_comm]
  · next hshort => simp [hshort]

/-- The row of a finding. -/
def Finding.row (pathWidth lineWidth : Nat) (found : Finding) : Row :=
  ⟨[.magenta], padRight pathWidth found.path⟩ :: .bare "  " ::
    ⟨[.green], padLeft lineWidth (toString found.line)⟩ :: .bare "  " ::
    highlight found.content found.keyword

/-- The row of a finding whose number can be written. -/
theorem row_toMatch (pathWidth lineWidth : Nat) {found : Finding}
    (hline : numberText found.line = .ok (toString found.line)) :
    Search.row pathWidth lineWidth found.toMatch = .ok (found.row pathWidth lineWidth) := by
  rw [Search.row, Finding.toMatch, hline, markedLine_text]
  rfl

/-- A row says path, number and line, with the path and the number filled up. -/
theorem Finding.reading_row (pathWidth lineWidth : Nat) (found : Finding) :
    (found.row pathWidth lineWidth).reading =
      padRight pathWidth found.path ++ "  " ++ padLeft lineWidth (toString found.line) ++ "  " ++
        found.content := by
  rw [Finding.row]
  simp only [Row.reading_cons, reading_highlight, Piece.bare, String.append_assoc]

/-- The paths of findings can be measured. -/
theorem mapM_pathLength (findings : List Finding) :
    (findings.map Finding.toMatch).mapM (fun found => pathLength found.path) =
      .ok (findings.map (·.path.length)) :=
  mapM_map_eq_ok fun _ _ => rfl

/-- Findings are drawn one after the other, aligned to the longest path and the longest number. -/
theorem draw_toMatch {findings : List Finding} (hne : findings ≠ [])
    (hlines : ∀ found ∈ findings, numberText found.line = .ok (toString found.line)) :
    draw (findings.map Finding.toMatch) =
      .ok (findings.map (Finding.row ((findings.map (·.path.length)).foldl max 0)
        ((findings.map fun found => (toString found.line).length).foldl max 0))) := by
  have hnumbers : (findings.map Finding.toMatch).mapM (fun found => numberText found.line) =
      .ok (findings.map fun found => toString found.line) :=
    mapM_map_eq_ok hlines
  rw [draw, if_neg (by simpa using hne), mapM_pathLength]
  simp only [hnumbers, bind, Except.bind, List.map_map]
  exact mapM_map_eq_ok fun found hfound => row_toMatch _ _ (hlines found hfound)

/-- **What the rows of a search say.** Findings whose numbers are not too long can be drawn, a row
for each, in order: the path, filled up to the longest one, the number of the line, filled up to the
longest one, and the line as it is, whatever is marked in it. -/
theorem plainRows_draw {findings : List Finding} (hne : findings ≠ [])
    (hlines : ∀ found ∈ findings,
      (Nat.toDigits 10 found.line.natAbs).length ≤ Numeral.maxDigits) :
    ∃ screen pathWidth lineWidth, draw (findings.map Finding.toMatch) = .ok screen ∧
      IsGreatest {n | ∃ found ∈ findings, found.path.length = n} pathWidth ∧
      IsGreatest {n | ∃ found ∈ findings, (toString found.line).length = n} lineWidth ∧
      screen.plainRows = findings.map fun found =>
        padRight pathWidth found.path ++ "  " ++ padLeft lineWidth (toString found.line) ++ "  " ++
          found.content := by
  have hpath : IsGreatest {n | n ∈ findings.map (·.path.length)} _ :=
    isGreatest_foldl_max (by simpa using hne)
  have hline : IsGreatest {n | n ∈ findings.map fun found => (toString found.line).length} _ :=
    isGreatest_foldl_max (by simpa using hne)
  simp only [List.mem_map] at hpath hline
  have hdraw := draw_toMatch hne fun found hfound => numberText_eq_ok (hlines found hfound)
  refine ⟨_, _, _, hdraw, hpath, hline, ?_⟩
  rw [Screen.plainRows, List.map_map]
  exact List.map_congr_left fun found _ => found.reading_row _ _

/-- Keywords that overlap themselves, that are empty, and lines that are longer in lowercase. -/
theorem plainRows_draw_odd :
    let findings : List Finding :=
      [⟨"a", -12, "aaa", "aa"⟩, ⟨"notes", 3, "İİa", "a"⟩, ⟨"b", 7, "x", ""⟩]
    findings ≠ [] ∧
      (∀ found ∈ findings, (Nat.toDigits 10 found.line.natAbs).length ≤ Numeral.maxDigits) ∧
      ∃ screen pathWidth lineWidth,
        draw (findings.map Finding.toMatch) = .ok screen ∧ pathWidth = 5 ∧ lineWidth = 3 ∧
        screen.plainRows = ["a      -12  aaa", "notes    3  İİa", "b        7  x"] := by
  intro findings
  have hne : findings ≠ [] := by simp [findings]
  have hlines : ∀ found ∈ findings,
      (Nat.toDigits 10 found.line.natAbs).length ≤ Numeral.maxDigits := by decide
  obtain ⟨screen, pathWidth, lineWidth, hdraw, hpath, hline, hrows⟩ := plainRows_draw hne hlines
  have hpathWidth : pathWidth = 5 := by
    refine hpath.unique ⟨⟨_, .tail _ (.head _), by decide⟩, ?_⟩
    rintro _ ⟨found, hfound, rfl⟩
    revert found
    decide
  have hlineWidth : lineWidth = 3 := by
    refine hline.unique ⟨⟨_, .head _, by decide⟩, ?_⟩
    rintro _ ⟨found, hfound, rfl⟩
    revert found
    decide
  refine ⟨hne, hlines, screen, pathWidth, lineWidth, hdraw, hpathWidth, hlineWidth, ?_⟩
  rw [hrows, hpathWidth, hlineWidth]
  decide

/-- **A number of too many digits** keeps findings from being drawn, whatever else is in them. -/
theorem draw_toMatch_eq_error {findings : List Finding} {found : Finding}
    (hfound : found ∈ findings)
    (hlong : Numeral.maxDigits < (Nat.toDigits 10 found.line.natAbs).length) :
    draw (findings.map Finding.toMatch) = .error .numberTooLong := by
  have hnumbers : (findings.map Finding.toMatch).mapM (fun found => numberText found.line) =
      .error .numberTooLong := by
    cases hread : (findings.map Finding.toMatch).mapM fun found => numberText found.line with
    | error fault =>
        obtain ⟨_, other, _, -, -, hother⟩ := mapM_eq_error_iff.mp hread
        rw [(numberText_eq_error_iff.mp hother).2]
    | ok numbers =>
        obtain ⟨text, htext⟩ :=
          exists_mapM_eq_ok_iff.mp ⟨numbers, hread⟩ _ (List.mem_map_of_mem hfound)
        have hrefused := numberText_eq_error_iff.mpr ⟨hlong, rfl⟩
        cases htext.symm.trans hrefused
  have hne : findings ≠ [] := List.ne_nil_of_mem hfound
  rw [draw, if_neg (by simpa using hne), mapM_pathLength]
  simp only [hnumbers, bind, Except.bind]

/-- The least number of too many digits. -/
theorem draw_longNumber :
    let findings : List Finding := [⟨"a", 10 ^ Numeral.maxDigits, "x", ""⟩]
    findings ≠ [] ∧ draw (findings.map Finding.toMatch) = .error .numberTooLong := by
  have hlong {k : Nat} (hk : 0 < k) : k < (Nat.toDigits 10 ((10 : Int) ^ k).natAbs).length := by
    rw [Int.natAbs_pow, ← Nat.not_le, Nat.length_toDigits_le_iff (by decide) hk]
    exact Nat.lt_irrefl _
  intro findings
  exact ⟨List.cons_ne_nil _ _, draw_toMatch_eq_error (.head _) (hlong (by decide))⟩

end Search

end VitaeShell
