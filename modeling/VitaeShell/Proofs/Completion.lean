import Mathlib.Data.List.DropRight
import VitaeShell.Completion

/-!
# The completed word

Completing an input replaces what stands after its last space (`afterSpace`) and leaves what stands
before it (`upToSpace`). A candidate without spaces becomes the last word of the new input, and the
new input asks for the same candidates as the old one: which word of a line is being completed does
not depend on that word. So a cycle that has begun goes on with the options it began with
(`Describes`), as long as the tab key is pressed.

## Main results

* `replaceLast_eq`: what completing does to the input.
* `candidates_upToSpace_append`: another last word has the same candidates.
* `complete_of_inactive`: the first press starts a cycle.
* `Describes.complete_eq`: each further press goes on to the next option.
-/

namespace VitaeShell.Completion

/-! ### The last space -/

/-- The input up to its last space, with that space; nothing if there is none. -/
def upToSpace (input : String) : String :=
  String.ofList (input.toList.rdropWhile (· ≠ ' '))

/-- The input after its last space; all of it if there is none. -/
def afterSpace (input : String) : String :=
  String.ofList (input.toList.rtakeWhile (· ≠ ' '))

/-- An input is put together again from what stands before its last word and that word. -/
theorem upToSpace_append_afterSpace (input : String) :
    upToSpace input ++ afterSpace input = input := by
  rw [upToSpace, afterSpace, ← String.ofList_append, List.rdropWhile_append_rtakeWhile,
    String.ofList_toList]

/-- There is no space in the last word. -/
theorem space_notMem_afterSpace (input : String) : ' ' ∉ (afterSpace input).toList := by
  intro h
  rw [afterSpace, String.toList_ofList] at h
  simpa using List.mem_rtakeWhile_imp h

/-- What stands up to the last space is empty or ends in a space. -/
theorem upToSpace_cases (input : String) :
    upToSpace input = "" ∨ ∃ front, (upToSpace input).toList = front ++ [' '] := by
  rw [upToSpace, String.toList_ofList]
  by_cases hnil : input.toList.rdropWhile (· ≠ ' ') = []
  · rw [hnil]
    exact .inl rfl
  · have hlast := List.rdropWhile_last_not (· ≠ ' ') input.toList hnil
    have hspace : (input.toList.rdropWhile (· ≠ ' ')).getLast hnil = ' ' := by simpa using hlast
    refine .inr ⟨(input.toList.rdropWhile (· ≠ ' ')).dropLast, ?_⟩
    conv_lhs => rw [← List.dropLast_append_getLast hnil, hspace]

/-- Behind the last space, words without spaces can be exchanged. -/
theorem upToSpace_append {word : String} (h : ' ' ∉ word.toList) (input : String) :
    upToSpace (upToSpace input ++ word) = upToSpace input := by
  have hword : ∀ c ∈ word.toList.reverse, decide (c ≠ ' ') = true := by
    intro c hc
    simpa using ne_of_mem_of_not_mem (List.mem_reverse.mp hc) h
  have hfront : (upToSpace input).toList.rdropWhile (· ≠ ' ') = (upToSpace input).toList := by
    rw [upToSpace, String.toList_ofList, List.rdropWhile_idempotent]
  conv_lhs => rw [upToSpace, String.toList_append, List.rdropWhile, List.reverse_append,
    List.dropWhile_append_of_pos hword, ← List.rdropWhile, hfront, String.ofList_toList]

/-- A word without spaces, put in place of the last one, is the last one then. -/
theorem afterSpace_append {word : String} (h : ' ' ∉ word.toList) (input : String) :
    afterSpace (upToSpace input ++ word) = word := by
  have hcut := upToSpace_append_afterSpace (upToSpace input ++ word)
  rw [upToSpace_append h] at hcut
  exact String.append_right_inj _ |>.mp hcut

/-! ### The words of an input -/

/-- The words of an input but for the last one, whatever stands in its place. -/
theorem exists_words_append (input : String) :
    ∃ front, ∀ word : String, ' ' ∉ word.toList →
      words (upToSpace input ++ word) = front ++ [word] := by
  rcases upToSpace_cases input with hnil | ⟨front, hfront⟩
  · refine ⟨[], fun word hword => ?_⟩
    rw [hnil, String.empty_append, words, List.splitOn_eq_singleton hword]
    simp
  · refine ⟨(front.splitOn ' ').map String.ofList, fun word hword => ?_⟩
    rw [words, String.toList_append, hfront, List.append_assoc, List.singleton_append,
      List.splitOn_append_cons_self, List.splitOn_eq_singleton hword]
    simp

/-- The last of the words is what follows the last space. -/
theorem words_eq (input : String) :
    words input = (words input).dropLast ++ [afterSpace input] := by
  obtain ⟨front, hwords⟩ := exists_words_append input
  have hinput := hwords (afterSpace input) (space_notMem_afterSpace input)
  rw [upToSpace_append_afterSpace] at hinput
  rw [hinput, List.dropLast_concat]

/-- To put another word in place of the last one leaves the others. -/
theorem words_upToSpace_append {word : String} (h : ' ' ∉ word.toList) (input : String) :
    words (upToSpace input ++ word) = (words input).dropLast ++ [word] := by
  obtain ⟨front, hwords⟩ := exists_words_append input
  have hinput := hwords (afterSpace input) (space_notMem_afterSpace input)
  rw [upToSpace_append_afterSpace] at hinput
  rw [hwords word h, hinput, List.dropLast_concat]

/-- The words with spaces between them are the input. -/
theorem intercalate_words (input : String) : String.intercalate " " (words input) = input := by
  rw [← String.toList_inj, String.toList_intercalate, words, List.map_map]
  simp [Function.comp_def]

/-- The last word is what follows the last space. -/
theorem lastWord_eq (input : String) : lastWord input = afterSpace input := by
  rw [lastWord, words_eq, List.getLast?_concat]
  rfl

/-- **What completing does to the input.** The new word stands behind the last space. -/
theorem replaceLast_eq {word : String} (h : ' ' ∉ word.toList) (input : String) :
    replaceLast input word = upToSpace input ++ word := by
  rw [replaceLast, ← words_upToSpace_append h, intercalate_words]

/-! ### Candidates -/

/-- An input is at its first word if nothing but spaces stands up to the last one. -/
theorem atFirstWord_iff (input : String) :
    atFirstWord input = true ↔ ∀ c ∈ (upToSpace input).toList, c = ' ' := by
  have hcut : input.toList = (upToSpace input).toList ++ (afterSpace input).toList := by
    rw [← String.toList_append, upToSpace_append_afterSpace]
  rw [atFirstWord, Bool.not_eq_true', ← Bool.not_eq_true, List.contains_iff_mem]
  constructor
  · intro hnone
    rcases upToSpace_cases input with hnil | ⟨front, hfront⟩
    · simp [hnil]
    · have hspaces : front.dropWhile (· = ' ') = [] := by
        by_contra hne
        rw [hcut, hfront, List.append_assoc, List.dropWhile_append,
          if_neg (by simpa using hne)] at hnone
        exact hnone (by simp)
      intro c hc
      rw [hfront, List.mem_append, List.mem_singleton] at hc
      rcases hc with hc | rfl
      · simpa using List.dropWhile_eq_nil_iff.mp hspaces c hc
      · rfl
  · intro hspaces hmem
    rw [hcut, List.dropWhile_append_of_pos (by simpa using hspaces)] at hmem
    exact space_notMem_afterSpace input ((List.dropWhile_suffix _).subset hmem)

/-- **Another last word has the same candidates.** -/
theorem candidates_upToSpace_append (registry : Registry) (fs : FileSystem) {word : String}
    (h : ' ' ∉ word.toList) (input : String) :
    candidates registry fs (upToSpace input ++ word) = candidates registry fs input := by
  have hfirst : atFirstWord (upToSpace input ++ word) = atFirstWord input := by
    rw [Bool.eq_iff_iff, atFirstWord_iff, atFirstWord_iff, upToSpace_append h]
  rw [candidates, candidates, hfirst]

/-! ### Pressing the tab key -/

/-- The tab key **restarts** if candidates fit, but not those of the cycle for its stem. -/
def Restarts (c : Completion) (input : String) (candidates : List String) : Prop :=
  let stem := c.stem.getD (lastWord input)
  candidatesFor candidates stem ≠ [] ∧
    ¬(candidatesFor candidates stem = c.options ∧ c.stem = some stem)

/-- A restart goes to the first of the candidates that fit. -/
theorem complete_of_restarts {c : Completion} {input : String} {candidates : List String}
    (h : c.Restarts input candidates) :
    c.complete input candidates =
      let stem := c.stem.getD (lastWord input)
      let options := candidatesFor candidates stem
      (⟨some stem, options, 0⟩, replaceLast input (options[0]?.getD "")) := by
  obtain ⟨hne, hother⟩ := h
  simp only [complete, List.isEmpty_iff, if_neg hne, if_neg hother]

/-- A cycle **describes** an input if it has options, namely the candidates for its stem, and the
word after the last space is the option at its index. -/
structure Describes (registry : Registry) (fs : FileSystem) (input : String) (c : Completion)
    (stem : String) : Prop where
  stem_eq : c.stem = some stem
  options_ne_nil : c.options ≠ []
  options_eq : c.options = candidatesFor (candidates registry fs input) stem
  option_eq : c.options[c.index]? = some (afterSpace input)

/-- A completion **fits** an input if no cycle is on, or one that describes the input. -/
def Fits (registry : Registry) (fs : FileSystem) (input : String) (c : Completion) : Prop :=
  c = idle ∨ ∃ stem, Describes registry fs input c stem

/-- Candidates that can be words of an input: they hold no spaces. -/
def Spaceless (registry : Registry) (fs : FileSystem) : Prop :=
  ∀ input, ∀ name ∈ candidates registry fs input, ' ' ∉ name.toList

variable {registry : Registry} {fs : FileSystem} {input stem : String} {c : Completion}

/-- The candidate that is shown is one of those on offer. -/
theorem Describes.index_lt (h : Describes registry fs input c stem) :
    c.index < c.options.length :=
  (List.getElem?_eq_some_iff.mp h.option_eq).1

/-- A cycle that describes the input does not restart. -/
theorem Describes.not_restarts (h : Describes registry fs input c stem) :
    ¬c.Restarts input (candidates registry fs input) := by
  rintro ⟨-, hother⟩
  rw [h.stem_eq, Option.getD_some] at hother
  exact hother ⟨h.options_eq.symm, rfl⟩

/-- There is no space in a candidate on offer. -/
theorem Spaceless.space_notMem (h : Spaceless registry fs) {option : String}
    (hoption : option ∈ candidatesFor (candidates registry fs input) stem) :
    ' ' ∉ option.toList :=
  h input option (List.mem_of_mem_filter hoption)

/-- An option in place of the last word is described by the cycle that stands at it. -/
theorem describes_option (hplain : Spaceless registry fs) {options : List String}
    (hoptions : options = candidatesFor (candidates registry fs input) stem) {index : Nat}
    {option : String} (h : options[index]? = some option) :
    Describes registry fs (upToSpace input ++ option) ⟨some stem, options, index⟩ stem := by
  have hoption : ' ' ∉ option.toList :=
    hplain.space_notMem (hoptions ▸ List.mem_of_getElem? h)
  exact {
    stem_eq := rfl
    options_ne_nil := List.ne_nil_of_mem (List.mem_of_getElem? h)
    options_eq := by rw [candidates_upToSpace_append registry fs hoption, hoptions]
    option_eq := by rw [afterSpace_append hoption, h] }

/-- **The first press starts a cycle** at the first candidate for the last word, if there is one. -/
theorem complete_of_inactive (hplain : Spaceless registry fs) (hstem : c.stem = none)
    (hne : candidatesFor (candidates registry fs input) (afterSpace input) ≠ []) :
    ∃ option,
      (candidatesFor (candidates registry fs input) (afterSpace input))[0]? = some option ∧
      c.complete input (candidates registry fs input) =
        (⟨some (afterSpace input),
          candidatesFor (candidates registry fs input) (afterSpace input), 0⟩,
          upToSpace input ++ option) := by
  obtain ⟨option, others, hoptions⟩ := List.exists_cons_of_ne_nil hne
  have hoption : ' ' ∉ option.toList := hplain.space_notMem (hoptions ▸ List.mem_cons_self)
  have hrestarts : c.Restarts input (candidates registry fs input) := by
    simp [Restarts, hstem, lastWord_eq, hne]
  refine ⟨option, by rw [hoptions]; rfl, ?_⟩
  simp only [complete_of_restarts hrestarts, hstem, Option.getD_none, lastWord_eq, hoptions,
    List.getElem?_cons_zero, Option.getD_some, replaceLast_eq hoption]

/-- **Each further press goes on to the next option**, and from the last one to the first. -/
theorem Describes.complete_eq (h : Describes registry fs input c stem)
    (hplain : Spaceless registry fs) :
    ∃ option, c.options[(c.index + 1) % c.options.length]? = some option ∧
      c.complete input (candidates registry fs input) =
        (⟨some stem, c.options, (c.index + 1) % c.options.length⟩, upToSpace input ++ option) := by
  have hlt : (c.index + 1) % c.options.length < c.options.length :=
    Nat.mod_lt _ (List.length_pos_of_ne_nil h.options_ne_nil)
  obtain ⟨option, hget⟩ : ∃ option, c.options[(c.index + 1) % c.options.length]? = some option :=
    ⟨_, List.getElem?_eq_getElem hlt⟩
  have hoption : ' ' ∉ option.toList :=
    hplain.space_notMem (h.options_eq ▸ List.mem_of_getElem? hget)
  refine ⟨option, hget, ?_⟩
  simp only [complete, h.stem_eq, Option.getD_some, ← h.options_eq, List.isEmpty_iff,
    if_neg h.options_ne_nil, and_self, if_true, hget, replaceLast_eq hoption]

/-- Without a candidate for the last word, the first press changes nothing. -/
theorem complete_of_eq_nil (hstem : c.stem = none)
    (h : candidatesFor (candidates registry fs input) (afterSpace input) = []) :
    c.complete input (candidates registry fs input) = (c, input) := by
  simp [complete, hstem, lastWord_eq, h]

/-- **The tab key keeps a completion fitting** the input that it makes. -/
theorem Fits.complete (h : Fits registry fs input c) (hplain : Spaceless registry fs) :
    Fits registry fs (c.complete input (candidates registry fs input)).2
      (c.complete input (candidates registry fs input)).1 := by
  rcases h with rfl | ⟨stem, h⟩
  · by_cases hne : candidatesFor (candidates registry fs input) (afterSpace input) = []
    · rw [complete_of_eq_nil rfl hne]
      exact .inl rfl
    · obtain ⟨option, hget, hcomplete⟩ := complete_of_inactive (c := idle) hplain rfl hne
      rw [hcomplete]
      exact .inr ⟨_, describes_option hplain rfl hget⟩
  · obtain ⟨option, hget, hcomplete⟩ := h.complete_eq hplain
    rw [hcomplete]
    exact .inr ⟨stem, describes_option hplain h.options_eq hget⟩

end VitaeShell.Completion
