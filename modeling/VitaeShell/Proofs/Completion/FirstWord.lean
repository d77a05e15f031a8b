import VitaeShell.Command.Builtin
import VitaeShell.Proofs.Completion
import VitaeShell.Proofs.FileSystem
import VitaeShell.Proofs.Line.Argument

/-!
# The word that names the command

Completion cuts an input at spaces, and the reader of lines cuts it at all blanks. So they may take
different words for the first one. The reader is at its first word as long as no blank stands behind
the leading blanks, and completion as long as no space stands behind the leading spaces. They agree
wherever blanks are spaces. Elsewhere they agree unless one of them alone has seen an end of a word:
completion a space among the leading blanks, or the reader another blank behind them.

## Main results

* `CommandLine.args_parse_eq_nil_iff`: when a line has no arguments.
* `Completion.atFirstWord_iff_notMem`: when completion is at the first word.
* `Completion.sameFirstWord_iff`: when the two agree.
* `Completion.candidates_of_parse`: what completion offers, in terms of the arguments.
-/

namespace VitaeShell

/-! ### The words of the reader -/

/-- A text with a character that can stand in a word has words. -/
theorem tokensOf_ne_nil {cs : List Char} {c : Char} (hc : c ∈ cs) (hword : isWordChar c = true) :
    tokensOf cs ≠ [] := by
  induction cs using tokens_induction with
  | nil => cases hc
  | closed run rest hrun _ =>
      rw [tokensOf_closed hrun]
      exact List.cons_ne_nil _ _
  | unclosed rest hrest ih =>
      have hne : c ≠ '\x22' := by
        rintro rfl
        rw [isWordChar_quote] at hword
        cases hword
      rw [tokensOf_open hrest]
      exact ih (List.mem_of_ne_of_mem hne hc)
  | blank d rest hblank ih =>
      have hne : c ≠ d := by
        rintro rfl
        rw [isWordChar_of_isBlank hblank] at hword
        cases hword
      rw [tokensOf_blank hblank]
      exact ih (List.mem_of_ne_of_mem hne hc)
  | run run rest hrun hall hrest _ =>
      rw [tokensOf_run hrun hall hrest]
      exact List.cons_ne_nil _ _

/-- **A text without quotes has one word only** if no blank stands behind its leading blanks, when a
character goes on its last word. -/
theorem tail_tokensOf_eq_nil_iff {cs : List Char} (hquote : '\x22' ∉ cs) {c : Char}
    (hc : isWordChar c = true) :
    (tokensOf (cs ++ [c])).tail = [] ↔ ∀ d ∈ Text.trimStart cs, Text.isBlank d = false := by
  have hword : ∀ d ∈ Text.trimStart cs, Text.isBlank d = false → isWordChar d = true := by
    intro d hd hsolid
    have hne : d ≠ '\x22' := ne_of_mem_of_not_mem ((List.dropWhile_suffix _).subset hd) hquote
    simp [isWordChar, hsolid, hne]
  have hhead : ∀ d ∈ (Text.trimStart cs).head?, Text.isBlank d = false :=
    Text.isBlank_of_mem_head?_trimStart
  rw [← tokensOf_trimStart_append]
  generalize Text.trimStart cs = behind at hword hhead ⊢
  cases hfind : behind.find? Text.isBlank with
  | none =>
      have hsolid : ∀ d ∈ behind, Text.isBlank d = false := by simpa using hfind
      have hrun : ∀ d ∈ behind ++ [c], isWordChar d = true :=
        List.forall_mem_append.mpr ⟨fun d hd => hword d hd (hsolid d hd), by simpa using hc⟩
      have htokens : tokensOf (behind ++ [c] ++ []) = (behind ++ [c]) :: tokensOf [] :=
        tokensOf_run (by simp) hrun (by simp)
      rw [List.append_nil] at htokens
      rw [htokens, tokensOf]
      exact iff_of_true rfl hsolid
  | some blank =>
      obtain ⟨hblank, run, rest, rfl, hrun⟩ := List.find?_eq_some_iff_append.mp hfind
      have hne : run ≠ [] := by
        rintro rfl
        simp [hhead blank rfl] at hblank
      have hsolid : ∀ d ∈ run, isWordChar d = true := fun d hd =>
        hword d (by simp [hd]) (by simpa using hrun d hd)
      have hstop : ∀ d ∈ (blank :: rest ++ [c]).head?, isWordChar d = false := by
        simpa using isWordChar_of_isBlank hblank
      rw [List.append_assoc, tokensOf_run hne hsolid hstop, List.cons_append, tokensOf_blank hblank]
      refine iff_of_false (tokensOf_ne_nil (List.mem_append_right rest List.mem_cons_self) hc) ?_
      intro hall
      simp [hall blank (by simp)] at hblank

/-! ### When there are no arguments -/

/-- **A text without quotes has no arguments**, when a letter goes on its last word, exactly if no
blank stands behind its leading blanks. -/
theorem CommandLine.args_parse_eq_nil_iff {text : String} (hquote : '\x22' ∉ text.toList) :
    (parse (text ++ "x")).args = [] ↔ ∀ c ∈ Text.trimStart text.toList, Text.isBlank c = false := by
  have hchars : (text ++ "x").toList = text.toList ++ ['x'] := by simp
  have hx : 'x' ∈ (text ++ "x").toList := by simp
  obtain ⟨name, args, htokens⟩ := List.exists_cons_of_ne_nil (tokensOf_ne_nil hx (by decide))
  have hwords : tokens (text ++ "x") = String.ofList name :: args.map String.ofList := by
    rw [tokens, htokens, List.map_cons]
  have htail : (tokensOf (text.toList ++ ['x'])).tail = args := by
    rw [← hchars, htokens, List.tail_cons]
  rw [parse_of_tokens hwords hx (by decide) (by decide) (by decide) (by decide),
    List.map_eq_nil_iff, ← htail, tail_tokensOf_eq_nil_iff hquote (by decide)]

namespace Completion

/-! ### When completion is at the first word -/

/-- The leading blanks behind the leading spaces: empty, or another blank and whatever blanks follow
it. -/
def oddBlanks (text : String) : List Char :=
  (text.toList.takeWhile Text.isBlank).dropWhile (· = ' ')

/-- **Completion is at the first word** if it sees a space neither among the leading blanks, but for
the leading spaces, nor behind them. -/
theorem atFirstWord_iff_notMem (text : String) :
    atFirstWord text = true ↔ ' ' ∉ oddBlanks text ∧ ' ' ∉ Text.trimStart text.toList := by
  have hstart : (Text.trimStart text.toList).dropWhile (· = ' ') = Text.trimStart text.toList := by
    cases hbehind : Text.trimStart text.toList with
    | nil => rfl
    | cons c rest =>
        have hsolid : Text.isBlank c = false :=
          Text.isBlank_of_mem_head?_trimStart c (by rw [hbehind]; rfl)
        have hne : c ≠ ' ' := by
          rintro rfl
          rw [isBlank_space] at hsolid
          cases hsolid
        rw [List.dropWhile_cons_of_neg (by simpa using hne)]
  have hcut : text.toList.dropWhile (· = ' ') = oddBlanks text ++ Text.trimStart text.toList := by
    conv_lhs => rw [← List.takeWhile_append_dropWhile (p := Text.isBlank) (l := text.toList),
      List.dropWhile_append, ← Text.trimStart, hstart, ← oddBlanks]
    split
    · next hempty => rw [List.isEmpty_iff.mp hempty, List.nil_append]
    · rfl
  rw [atFirstWord, hcut, Bool.not_eq_true', ← Bool.not_eq_true, List.contains_iff_mem,
    List.mem_append, not_or]

/-- Completion and the reader take the **same first word** from a text if both see its end in a
space behind the leading blanks, and without such a space if completion sees an end among the
leading blanks exactly if the reader sees one behind them. -/
def SameFirstWord (text : String) : Prop :=
  ' ' ∈ Text.trimStart text.toList ∨
    (' ' ∈ oddBlanks text ↔ ∃ c ∈ Text.trimStart text.toList, Text.isBlank c = true)

instance (text : String) : Decidable (SameFirstWord text) :=
  inferInstanceAs (Decidable (_ ∨ _))

/-- That is what it takes to agree. -/
theorem sameFirstWord_iff (text : String) :
    SameFirstWord text ↔
      (atFirstWord text = true ↔ ∀ c ∈ Text.trimStart text.toList, Text.isBlank c = false) := by
  have hnone : (∀ c ∈ Text.trimStart text.toList, Text.isBlank c = false) ↔
      ¬∃ c ∈ Text.trimStart text.toList, Text.isBlank c = true := by simp
  have hspace : ' ' ∈ Text.trimStart text.toList →
      ∃ c ∈ Text.trimStart text.toList, Text.isBlank c = true := fun h => ⟨' ', h, isBlank_space⟩
  rw [SameFirstWord, atFirstWord_iff_notMem, hnone]
  by_cases hbehind : ' ' ∈ Text.trimStart text.toList
  · -- both have seen the end of a word
    refine iff_of_true (.inl hbehind) (iff_of_false (fun hnot => hnot.2 hbehind) ?_)
    exact not_not_intro (hspace hbehind)
  · simp only [hbehind, false_or, not_false_eq_true, and_true, not_iff_not]

/-- Where all blanks are spaces, the two agree. -/
theorem sameFirstWord_of_forall {text : String}
    (h : ∀ c ∈ text.toList, Text.isBlank c = true → c = ' ') : SameFirstWord text := by
  have hodd : oddBlanks text = [] := by
    refine List.dropWhile_eq_nil_iff.mpr fun c hc => ?_
    have hmem : c ∈ text.toList := (List.takeWhile_prefix _).subset hc
    simpa using h c hmem (List.mem_takeWhile_imp hc)
  by_cases hspace : ' ' ∈ Text.trimStart text.toList
  · exact .inl hspace
  · refine .inr (iff_of_false (by simp [hodd]) ?_)
    rintro ⟨c, hc, hblank⟩
    rw [h c ((List.dropWhile_suffix _).subset hc) hblank] at hc
    exact hspace hc

/-! ### What is offered -/

/-- The names in the current directory; none if it does not exist. -/
def namesHere (fs : FileSystem) : List String :=
  match fs.here? with
  | some entries => Table.names entries
  | none => []

/-- Completion offers the names of the commands, or those in the current directory. -/
theorem candidates_eq (registry : Registry) (fs : FileSystem) (text : String) :
    candidates registry fs text =
      if atFirstWord text = true then registry.visibleNames else namesHere fs := by
  rw [candidates, namesHere, FileSystem.names, FileSystem.here]
  cases fs.here? <;> rfl

/-- **Completion and the reader.** -/
theorem candidates_of_parse {text : String} (hquote : '\x22' ∉ text.toList) (registry : Registry)
    (fs : FileSystem) :
    let args := (CommandLine.parse (text ++ "x")).args
    (SameFirstWord text →
      candidates registry fs text = if args = [] then registry.visibleNames else namesHere fs) ∧
    (¬SameFirstWord text →
      candidates registry fs text = if args = [] then namesHere fs else registry.visibleNames) ∧
    ((∀ c ∈ text.toList, Text.isBlank c = true → c = ' ') → SameFirstWord text) := by
  intro args
  have hagree : SameFirstWord text ↔ (atFirstWord text = true ↔ args = []) := by
    rw [sameFirstWord_iff, CommandLine.args_parse_eq_nil_iff hquote]
  refine ⟨fun hsame => ?_, fun hother => ?_, sameFirstWord_of_forall⟩
  · rw [candidates_eq]
    simp only [hagree.mp hsame]
  · have hopposite : ¬(atFirstWord text = true ↔ args = []) := fun h => hother (hagree.mpr h)
    have hfirst : atFirstWord text = true ↔ ¬args = [] :=
      (not_iff_comm.mp (not_iff.mp hopposite)).symm
    rw [candidates_eq]
    simp only [hfirst, ite_not]

/-- A file system with one note. -/
def jotted : FileSystem :=
  ⟨[("note", .ofText "milk")], []⟩

/-- A line that goes on behind its second word. -/
theorem candidates_of_parse_jotted :
    '\x22' ∉ "  cat\u00a0note ".toList ∧ SameFirstWord "  cat\u00a0note " ∧
      candidates Builtin.registry jotted "  cat\u00a0note " = ["note"] := by
  have hquote : '\x22' ∉ "  cat\u00a0note ".toList := by decide
  have hsame : SameFirstWord "  cat\u00a0note " := by decide
  have hargs : (CommandLine.parse ("  cat\u00a0note " ++ "x")).args ≠ [] := by decide +kernel
  refine ⟨hquote, hsame, ?_⟩
  rw [(candidates_of_parse hquote Builtin.registry jotted).1 hsame, if_neg hargs]
  rfl

/-- Behind a blank that is no space, completion still takes the first word for the last one. -/
theorem candidates_nbsp :
    '\x22' ∉ "cat\u00a0".toList ∧
      CommandLine.parse ("cat\u00a0" ++ "x") = ⟨"cat", ["x"]⟩ ∧
      candidates Builtin.registry jotted "cat\u00a0" = Builtin.registry.visibleNames ∧
      Builtin.registry.visibleNames ≠ namesHere jotted := by
  refine ⟨by decide, by decide +kernel, ?_, by decide⟩
  have hfirst : atFirstWord "cat\u00a0" = true := by decide
  rw [candidates_eq, if_pos hfirst]

end Completion

end VitaeShell
