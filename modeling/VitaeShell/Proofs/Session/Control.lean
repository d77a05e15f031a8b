import VitaeShell.Proofs.Session.Completion
import VitaeShell.Proofs.Session.Restart
import VitaeShell.Proofs.Text

/-!
# Control characters in a session

What is typed or put into the input line is stripped of control characters. Text gets into that line
by two other ways as well, which strip nothing: a word is completed with the name of a command or of
a node in the tree, and a line is recalled from the history. Names hold no control characters, and
the history only holds what has been an input line before. So as long as every line is submitted
from the input, no control character gets into the input, the history, or a line of the log that
echoes an input (`Session.Clean`).

Outputs may hold anything, but none of them reads like an echo (`Builtin.run_ne_echo`).

## Main results

* `clean_step`: operations on the input keep a session clean.
* `clean_of_mem_run`: so it is after each operation of a run of them.
-/

namespace VitaeShell

/-! ### Texts -/

/-- A text **without control characters**. -/
def IsClean (text : String) : Prop :=
  ∀ c ∈ text.toList, 0x20 ≤ c.toNat

instance (text : String) : Decidable (IsClean text) :=
  List.decidableBAll (fun c : Char => 0x20 ≤ c.toNat) text.toList

theorem isClean_empty : IsClean "" := by
  simp [IsClean]

/-- Two clean texts are clean together. -/
theorem IsClean.append {s t : String} (hs : IsClean s) (ht : IsClean t) : IsClean (s ++ t) := by
  intro c hc
  rw [String.toList_append, List.mem_append] at hc
  exact hc.elim (hs c) (ht c)

/-- A text is clean if it is made of characters of a clean one. -/
theorem IsClean.ofList {cs : List Char} {text : String} (h : IsClean text)
    (hsubset : cs ⊆ text.toList) : IsClean (String.ofList cs) := by
  intro c hc
  rw [String.toList_ofList] at hc
  exact h c (hsubset hc)

/-- Stripping leaves no control characters. -/
theorem isClean_stripControl (cs : List Char) : IsClean (String.ofList (stripControl cs)) := by
  intro c hc
  rw [String.toList_ofList] at hc
  simpa using List.of_mem_filter hc

/-- The characters of a safe name are no control characters. -/
theorem IsSegment.isClean {name : String} (h : IsSegment name) : IsClean name := by
  have hcontrol : ∀ n < 0x20, isSegmentChar (Char.ofNat n) = false := by decide
  intro c hc
  by_contra hlt
  have hunsafe := hcontrol c.toNat (by omega)
  rw [Char.ofNat_toNat, h c hc] at hunsafe
  cases hunsafe

/-! ### Recalled lines -/

namespace History

variable {h : History} {line : String}

/-- Walking back recalls an entry. -/
theorem mem_entries_of_previous (hrecalled : h.previous.1 = some line) : line ∈ h.entries := by
  rw [previous] at hrecalled
  split at hrecalled
  · cases hrecalled
  · exact List.mem_of_getElem? hrecalled

/-- Walking forth recalls an entry, or ends in an empty line. -/
theorem mem_entries_of_next (hrecalled : h.next.1 = some line) : line ∈ h.entries ∨ line = "" := by
  rw [next] at hrecalled
  split at hrecalled
  · cases hrecalled
  · split at hrecalled
    · next hget =>
        obtain rfl := Option.some.inj hrecalled
        exact .inl (List.mem_of_getElem? hget)
    · exact .inr (Option.some.inj hrecalled).symm

end History

/-! ### Completed words -/

namespace Completion

/-- What the tab key puts in place of the last word is a candidate. -/
theorem complete_cases (c : Completion) (input : String) (candidates : List String) :
    (c.complete input candidates).2 = input ∨
      ∃ word ∈ candidates, (c.complete input candidates).2 = replaceLast input word := by
  unfold complete
  extract_lets stem options index
  split
  · exact .inl rfl
  · next hsome =>
      have hpos : 0 < options.length := List.length_pos_of_ne_nil (by simpa using hsome)
      have hindex : index < options.length := by
        unfold index
        split
        · exact Nat.mod_lt _ hpos
        · exact hpos
      have hoption : options[index] ∈ candidates :=
        List.mem_of_mem_filter (List.getElem_mem hindex)
      refine .inr ⟨options[index], hoption, ?_⟩
      rw [List.getElem?_eq_getElem hindex, Option.getD_some]

/-- Completing with clean names keeps an input clean. -/
theorem isClean_complete {registry : Registry} {fs : FileSystem} {input : String}
    (hplain : Spaceless registry fs) (hclean : ∀ name ∈ candidates registry fs input, IsClean name)
    (h : IsClean input) (c : Completion) :
    IsClean (c.complete input (candidates registry fs input)).2 := by
  obtain hsame | ⟨word, hword, heq⟩ := c.complete_cases input (candidates registry fs input)
  · rwa [hsame]
  · rw [heq, replaceLast_eq (hplain input word hword)]
    exact (h.ofList (List.rdropWhile_prefix ..).subset).append (hclean word hword)

end Completion

/-! ### What the built-in commands show -/

/-- How a line of the log begins that echoes an input. -/
def echoOpening : String := "$ "

/-- An echo starts as echoes do. -/
theorem Session.startsWith_echo (input : String) :
    Text.startsWith (echo input) echoOpening = true :=
  Text.startsWith_append (Text.startsWith_self _) _

namespace Builtin

/-- The names of the commands that completion offers are safe. -/
theorem isSegment_of_mem_visibleNames : ∀ name ∈ registry.visibleNames, IsSegment name := by
  decide

/-- No answer reads like an echo. -/
theorem Answers.ne_echo {fs : FileSystem} {b : Builtin} {args : List String} {output : String}
    (h : Answers fs b args output) (input : String) : output ≠ Session.echo input := by
  have hapart : ∀ opening ∈ clearSignal :: payloadOpening :: PathFault.lost.message :: b.openings,
      Text.Apart opening echoOpening := by
    cases b <;> decide
  obtain ⟨opening, hopening, hstart⟩ := h.exists_opening
  exact (hapart opening hopening).ne hstart (Session.startsWith_echo input)

/-- **No output reads like an echo**, whatever the line, the files and the clipboard are. -/
theorem run_ne_echo (line : CommandLine) (fs : FileSystem) (clipboard : Clipboard)
    (input : String) : (registry.run line fs clipboard).answer.output ≠ Session.echo input := by
  have htrouble : Text.Apart troubleOpening echoOpening := by decide
  obtain ⟨name, args⟩ := line
  by_cases hname : ∃ b : Builtin, b.name = name
  · obtain ⟨b, rfl⟩ := hname
    rcases haction : (b.action args fs clipboard).1 with message | answer
    · rw [run_of_action_eq_error haction]
      exact htrouble.ne (Registry.startsWith_failureMessage _ _) (Session.startsWith_echo input)
    · rw [run_of_action_eq_ok haction]
      exact (answers_action haction).ne_echo input
  · have hne : ∀ b : Builtin, b.name ≠ name := by simpa using hname
    rw [run_of_forall_ne hne]
    exact htrouble.ne (Registry.startsWith_unknownMessage _) (Session.startsWith_echo input)

end Builtin

namespace Session

/-- A session is **clean** if there are no control characters in its input, in its history, and in
the inputs that its log echoes. -/
structure Clean (s : Session) : Prop where
  input : IsClean s.input
  entries : ∀ line ∈ s.history.entries, IsClean line
  echoed : ∀ line, echo line ∈ s.log → IsClean line

variable {document : Document} {s : Session}

/-- A new session is clean. -/
theorem clean_start (setting : Setting) : (start setting).1.Clean where
  input := isClean_empty
  entries := by simp [start, History.empty]
  echoed := by simp [start]

/-- In the tree of a document no candidate holds a control character. -/
theorem Resident.isClean_candidate (h : s.Resident document) {input : String} :
    ∀ name ∈ Completion.candidates Builtin.registry s.fs input, IsClean name := by
  intro name hname
  rw [Completion.candidates] at hname
  split at hname
  · exact (Builtin.isSegment_of_mem_visibleNames name hname).isClean
  · split at hname
    · next names hnames =>
        have htree := FileSystem.names_subset_namesWithin hnames hname
        rw [h.1] at htree
        exact (document.isSegment_of_mem_namesWithin name htree).isClean
    · cases hname

/-- The echo of a clean line can be logged, with what does not read like an echo behind it. -/
theorem Clean.echoed_append (h : s.Clean) {line output : String} (hline : IsClean line)
    (houtput : ∀ input, output ≠ echo input) :
    ∀ input, echo input ∈ s.log ++ [echo line, output] → IsClean input := by
  intro input hinput
  simp only [List.mem_append, List.mem_cons, List.not_mem_nil, or_false] at hinput
  rcases hinput with hinput | heq | heq
  · exact h.echoed input hinput
  · rwa [String.append_right_inj _ |>.mp heq]
  · exact absurd heq.symm (houtput input)

/-- A recalled line is clean. -/
theorem Clean.browse (h : s.Clean) {recalled : Option String × History}
    (hentries : recalled.2.entries = s.history.entries)
    (hrecalled : ∀ line, recalled.1 = some line → IsClean line) : (s.browse recalled).Clean where
  input := by
    show IsClean (recalled.1.getD s.input)
    cases hline : recalled.1 with
    | none => exact h.input
    | some line => exact hrecalled line hline
  entries := by
    show ∀ line ∈ recalled.2.entries, IsClean line
    rw [hentries]
    exact h.entries
  echoed := h.echoed

/-- Submitting a clean line keeps a session clean, if the output does not read like an echo. -/
theorem Clean.submitLine (h : s.Clean) {setting : Setting} {clipboard : Clipboard} {line : String}
    (hline : IsClean line)
    (houtput : ∀ input, (s.submitLine setting clipboard line).result ≠ echo input) :
    (s.submitLine setting clipboard line).session.Clean where
  input := isClean_empty
  entries := by
    rw [submitLine_entries]
    split
    · rw [List.forall_mem_append, List.forall_mem_singleton]
      exact ⟨h.entries, hline⟩
    · exact h.entries
  echoed := by
    rw [submitLine_log]
    split
    · simp
    · exact h.echoed_append hline houtput

/-- **Every key keeps a session clean.** -/
theorem Clean.press (h : s.Clean) (hs : s.Resident document) (key : Key) (character : String) :
    (s.press ⟨document, Builtin.registry⟩ key character).Clean := by
  cases key with
  | tab =>
      exact ⟨Completion.isClean_complete hs.spaceless hs.isClean_candidate h.input _, h.entries,
        h.echoed⟩
  | arrowUp =>
      refine h.browse (entries_previous _) fun line hline => ?_
      exact h.entries line (History.mem_entries_of_previous hline)
  | arrowDown =>
      refine h.browse (entries_next _) fun line hline => ?_
      rcases History.mem_entries_of_next hline with hmem | rfl
      · exact h.entries line hmem
      · exact isClean_empty
  | character => exact ⟨h.input.append (isClean_stripControl _), h.entries, h.echoed⟩
  | backspace => exact ⟨h.input.ofList (List.dropLast_subset _), h.entries, h.echoed⟩
  | interrupt =>
      have hmark : Text.Apart "^C" echoOpening := by decide
      refine ⟨isClean_empty, h.entries, h.echoed_append h.input fun input => ?_⟩
      exact hmark.ne (Text.startsWith_self _) (startsWith_echo input)
  | clearScreen => exact ⟨h.input, h.entries, by simp [Session.press]⟩

/-- A text that is put into the input line is clean. -/
theorem Clean.setInput (h : s.Clean) (text : String) : (s.setInput text).Clean where
  input := (isClean_stripControl text.toList).ofList (by
    rw [String.toList_ofList]
    exact Text.trim_subset _)
  entries := h.entries
  echoed := h.echoed

/-- An operation of one who types: a line is submitted only from the input. -/
def Op.typed : Op → Bool
  | .press _ _ | .setInput _ | .submit none | .refresh => true
  | .submit (some _) | .script _ => false

/-- No answer of a command is an echo. -/
theorem result_ne_echo (s : Session) (clipboard : Clipboard) (line input : String) :
    (s.submitLine ⟨document, Builtin.registry⟩ clipboard line).result ≠ echo input := by
  rw [submitLine_result]
  -- how the line is read does not matter here
  generalize CommandLine.parse line = command
  exact Builtin.run_ne_echo command s.fs clipboard input

theorem step_submit (setting : Setting) (s : Session) (clipboard : Clipboard)
    (line : Option String) :
    (s.step setting clipboard (.submit line)).session =
      (s.submitLine setting clipboard (line.getD s.input)).session := rfl

/-- **Every operation on the input keeps a session clean.** -/
theorem clean_step (hs : s.Resident document) (h : s.Clean) (clipboard : Clipboard) {op : Op}
    (hop : op.typed = true) :
    (s.step ⟨document, Builtin.registry⟩ clipboard op).session.Clean := by
  cases op with
  | press key character => exact h.press hs key character
  | setInput text => exact h.setInput text
  | submit line =>
      cases line with
      | none =>
          rw [step_submit]
          exact h.submitLine h.input (result_ne_echo s clipboard _)
      | some line => cases hop
  | refresh =>
      rw [step_refresh]
      exact clean_start _
  | script lines => cases hop

/-- **Control characters stay outside.** As long as every line is submitted from the input, after
each operation of a run with the built-in commands, on any document and with any clipboard, there
are no control characters in the input line, in the entries of the history, and in the lines of the
log that echo an input. -/
theorem clean_of_mem_run (document : Document) (clipboard : Clipboard) {ops : List Op}
    (hops : ∀ op ∈ ops, op.typed = true) :
    ∀ entry ∈ run ⟨document, Builtin.registry⟩ (start ⟨document, Builtin.registry⟩).1 clipboard ops,
      IsClean entry.2.session.input ∧
      (∀ line ∈ entry.2.session.history.entries, IsClean line) ∧
      ∀ line, echo line ∈ entry.2.session.log → IsClean (echo line) := by
  intro entry hentry
  have hopening : IsClean echoOpening := by decide
  obtain ⟨⟨-, hclean⟩, -⟩ := forall_mem_run_of (P := fun s => s.Resident document ∧ s.Clean)
    (Q := fun _ _ => True) (K := fun op => op.typed = true)
    (fun s clipboard op hop hs =>
      ⟨⟨(resident_step hs.1 clipboard op).1, clean_step hs.1 hs.2 clipboard hop⟩, trivial⟩)
    ⟨resident_start ⟨document, Builtin.registry⟩, clean_start _⟩ clipboard hops entry hentry
  exact ⟨hclean.input, hclean.entries, fun line hline => hopening.append (hclean.echoed line hline)⟩

/-- A line is put in with control characters and run, recalled, gone on with, and given up. -/
def pasting : List Op :=
  [.setInput "  pw\x1bd\x07\n", .submit none, .press .arrowUp "", .press .character "\tx\x00",
    .press .interrupt ""]

/-- A line with a control character in it is recorded without that character. -/
theorem clean_of_mem_pasting :
    (∀ op ∈ pasting, op.typed = true) ∧
      ∃ entry ∈ run ⟨.ofResume .sample, Builtin.registry⟩
          (start ⟨.ofResume .sample, Builtin.registry⟩).1 .willing pasting,
        entry.2.session.log = ["$ pwd", "/", "$ pwdx", "^C"] ∧
        entry.2.session.history.entries = ["pwd"] ∧
        ∀ line, echo line ∈ entry.2.session.log → IsClean (echo line) := by
  have hops : ∀ op ∈ pasting, op.typed = true := by decide
  refine ⟨hops, _, .tail _ (.tail _ (.tail _ (.tail _ (.head _)))), ?_, ?_, ?_⟩
  · decide +kernel
  · decide +kernel
  · exact (clean_of_mem_run (.ofResume .sample) .willing hops _
      (.tail _ (.tail _ (.tail _ (.tail _ (.head _)))))).2.2

end Session

end VitaeShell
