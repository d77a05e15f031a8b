import VitaeShell.Proofs.Completion
import VitaeShell.Proofs.Resume.Filing
import VitaeShell.Proofs.Session.Residence

/-!
# Completion in a session

The completion, the input and the file system of a session are changed apart from one another, and
the candidates are found anew at each press of the tab key. Still they never come to disagree: a
cycle that is on describes the input as it stands (`Completion.Fits`). Every operation but the tab
key ends the cycle, and the tab key leaves the file system alone.

That completing a word does not change what is completed rests on names without spaces. The names of
the commands have none, nor have those in the tree of a document.

## Main results

* `Reached.fits`: in every reached state the completion fits the input.
* `completion_of_mem_run`: so it does after each operation of a run, and no cycle restarts.
* `pressTabs_cons`: how the presses of the tab key count through the candidates.
* `pressTabs_eq`: what pressing the tab key leads to in any reached state without a cycle.
-/

namespace VitaeShell

/-- There is no space in the name of a command. -/
theorem Builtin.space_notMem_visibleNames :
    ∀ name ∈ Builtin.registry.visibleNames, ' ' ∉ name.toList := by
  decide

namespace Session

open Completion (afterSpace upToSpace)

/-- In the tree of a document no candidate holds a space. -/
theorem Resident.spaceless {document : Document} {s : Session} (h : s.Resident document) :
    Completion.Spaceless Builtin.registry s.fs := by
  intro input name hname
  rw [Completion.candidates] at hname
  split at hname
  · exact Builtin.space_notMem_visibleNames name hname
  · split at hname
    · next names hnames =>
        have htree := FileSystem.names_subset_namesWithin hnames hname
        rw [h.1] at htree
        exact (document.isSegment_of_mem_namesWithin name htree).notMem (by decide)
    · cases hname

/-- The completion of a session fits its input. -/
def Fits (registry : Registry) (s : Session) : Prop :=
  Completion.Fits registry s.fs s.input s.completion

/-- Keys keep the completion fitting the input. -/
theorem fits_press {document : Document} {s : Session} (hs : s.Resident document)
    (hfits : s.Fits Builtin.registry) (key : Key) (character : String) :
    (s.press ⟨document, Builtin.registry⟩ key character).Fits Builtin.registry := by
  cases key with
  | tab => exact Completion.Fits.complete hfits hs.spaceless
  | arrowUp | arrowDown | character | backspace | interrupt | clearScreen => exact .inl rfl

/-- **Every operation keeps the completion fitting the input.** -/
theorem fits_step {document : Document} {s : Session} (hs : s.Resident document)
    (hfits : s.Fits Builtin.registry) (clipboard : Clipboard) (op : Op) :
    (s.step ⟨document, Builtin.registry⟩ clipboard op).session.Fits Builtin.registry := by
  cases op with
  | press key character => exact fits_press hs hfits key character
  | submit line => exact .inl rfl
  | setInput text => exact .inl rfl
  | refresh => exact .inl rfl
  | script lines =>
      exact (forall_runScript (P := Fits Builtin.registry) (Q := fun _ => True)
        (fun _ _ _ _ => ⟨.inl rfl, trivial⟩) hfits clipboard lines).1

variable {document : Document} {s : Session}

/-- **In every reached state the completion fits the input.** -/
theorem Reached.fits (h : Reached ⟨document, Builtin.registry⟩ s) : s.Fits Builtin.registry := by
  induction h with
  | start => exact .inl rfl
  | step clipboard op hs ih => exact fits_step hs.resident ih clipboard op

/-- **A cycle that is on describes the input.** After each operation of a run with the built-in
commands, on any document and with any clipboard, either no cycle is on, or the cycle has a stem;
its options are the candidates for that stem in the present input, of which there are some; and the
word after the last space of the input is the option at the index. While a cycle is on, the tab key
does not restart. -/
theorem completion_of_mem_run (document : Document) (clipboard : Clipboard) (ops : List Op) :
    ∀ entry ∈ run ⟨document, Builtin.registry⟩ (start ⟨document, Builtin.registry⟩).1 clipboard ops,
      let s := entry.2.session
      let candidates := Completion.candidates Builtin.registry s.fs s.input
      (s.completion = .idle ∨
        ∃ stem, s.completion.stem = some stem ∧ s.completion.options ≠ [] ∧
          s.completion.options = candidatesFor candidates stem ∧
          s.completion.index < s.completion.options.length ∧
          s.completion.options[s.completion.index]? = some (afterSpace s.input)) ∧
      (s.completion.active = true → ¬s.completion.Restarts s.input candidates) := by
  intro entry hentry
  have hreached := reached_of_mem_run ⟨document, Builtin.registry⟩ clipboard ops entry hentry
  rcases hreached.fits with hidle | ⟨stem, hdescribes⟩
  · refine ⟨.inl hidle, fun hactive => ?_⟩
    rw [hidle] at hactive
    cases hactive
  · exact ⟨.inr ⟨stem, hdescribes.stem_eq, hdescribes.options_ne_nil, hdescribes.options_eq,
      hdescribes.index_lt, hdescribes.option_eq⟩, fun _ => hdescribes.not_restarts⟩

/-- The tab key in a line with an argument begun. -/
def tabbing : List Op :=
  [.setInput "cd e", .press .tab "", .press .tab ""]

/-- After two presses the second candidate stands in the input. -/
theorem completion_of_mem_tabbing :
    ∃ entry ∈ run ⟨.ofResume .sample, Builtin.registry⟩
        (start ⟨.ofResume .sample, Builtin.registry⟩).1 .willing tabbing,
      entry.2.session.input = "cd education" ∧
      entry.2.session.completion = ⟨some "e", ["experience", "education"], 1⟩ ∧
      ¬entry.2.session.completion.Restarts entry.2.session.input
        (Completion.candidates Builtin.registry entry.2.session.fs entry.2.session.input) := by
  refine ⟨_, .tail _ (.tail _ (.head _)), ?_, ?_, ?_⟩
  · decide +kernel
  · decide +kernel
  · exact (completion_of_mem_run (.ofResume .sample) .willing tabbing _
      (.tail _ (.tail _ (.head _)))).2 rfl

/-! ### Pressing the tab key again and again -/

/-- The session after one press of the tab key for each of the characters that come with it. -/
def pressTabs (setting : Setting) (s : Session) (characters : List String) : Session :=
  characters.foldl (fun s character => s.press setting .tab character) s

/-- One more press of the tab key comes after all the others. -/
theorem pressTabs_concat (setting : Setting) (s : Session) (characters : List String)
    (character : String) :
    pressTabs setting s (characters ++ [character]) =
      (pressTabs setting s characters).press setting .tab character :=
  List.foldl_concat ..

/-- A press of the tab key completes the input, and shows the candidate that stands in it then. -/
theorem press_tab (setting : Setting) (s : Session) (character : String) :
    s.press setting .tab character =
      let next := s.completion.complete s.input
        (Completion.candidates setting.registry s.fs s.input)
      { s with completion := next.1, input := next.2 } := rfl

/-- Without a candidate for the last word the tab key does nothing, however often it is pressed. -/
theorem pressTabs_of_eq_nil {setting : Setting} (hstem : s.completion.stem = none)
    (hnil : candidatesFor (Completion.candidates setting.registry s.fs s.input)
      (afterSpace s.input) = []) (characters : List String) :
    pressTabs setting s characters = s := by
  induction characters with
  | nil => rfl
  | cons character characters ih =>
      have hpress : s.press setting .tab character = s := by
        rw [press_tab, Completion.complete_of_eq_nil hstem hnil]
      rw [pressTabs, List.foldl_cons, hpress]
      exact ih

/-- The first press goes to the first candidate for the last word, and each further press to the
next one; what stands before that word stays. -/
theorem pressTabs_cons (setting : Setting)
    (hplain : Completion.Spaceless setting.registry s.fs) (hstem : s.completion.stem = none)
    {options : List String} (hoptions : options = candidatesFor
      (Completion.candidates setting.registry s.fs s.input) (afterSpace s.input))
    (hne : options ≠ []) (first : String) (characters : List String) :
    ∃ option, options[characters.length % options.length]? = some option ∧
      pressTabs setting s (first :: characters) =
        { s with
          input := upToSpace s.input ++ option
          completion := ⟨some (afterSpace s.input), options,
            characters.length % options.length⟩ } := by
  induction characters using List.reverseRecOn with
  | nil =>
      rw [hoptions] at hne
      obtain ⟨option, hget, hcomplete⟩ := Completion.complete_of_inactive hplain hstem hne
      rw [← hoptions] at hget hcomplete
      rw [List.length_nil, Nat.zero_mod]
      refine ⟨option, hget, ?_⟩
      rw [pressTabs, List.foldl_cons, List.foldl_nil, press_tab, hcomplete]
  | append_singleton characters character ih =>
      obtain ⟨option, hget, hpressed⟩ := ih
      have hdescribes := Completion.describes_option hplain hoptions hget
      obtain ⟨next, hnext, hcomplete⟩ := hdescribes.complete_eq hplain
      have hoption : ' ' ∉ option.toList :=
        hplain.space_notMem (hoptions ▸ List.mem_of_getElem? hget)
      -- one more press counts on from the index before it
      simp only [Nat.mod_add_mod] at hnext hcomplete
      rw [List.length_append, List.length_singleton]
      refine ⟨next, hnext, ?_⟩
      rw [← List.cons_append, pressTabs_concat, hpressed, press_tab]
      simp only [hcomplete, Completion.upToSpace_append hoption]

/-- **The tab key cycles.** In a reached state without a cycle, consider the candidates for the word
after the last space. If there are none, pressing the tab key changes nothing. Otherwise, after one
press or more, the word has given way to the candidate that the presses count to, in rounds from the
first to the last; the cycle has that word as its stem and the candidates as its options, and stands
at that one; and nothing else has changed. -/
theorem pressTabs_eq (hs : Reached ⟨document, Builtin.registry⟩ s)
    (hinactive : s.completion.active = false) (characters : List String) :
    let word := afterSpace s.input
    let options := candidatesFor (Completion.candidates Builtin.registry s.fs s.input) word
    (options = [] →
      s.completion = .idle ∧ pressTabs ⟨document, Builtin.registry⟩ s characters = s) ∧
    (options ≠ [] → characters ≠ [] →
      ∃ option, options[(characters.length - 1) % options.length]? = some option ∧
        pressTabs ⟨document, Builtin.registry⟩ s characters =
          { s with
            input := upToSpace s.input ++ option
            completion := ⟨some word, options, (characters.length - 1) % options.length⟩ }) := by
  have hidle : s.completion = .idle := by
    rcases hs.fits with hidle | ⟨stem, hdescribes⟩
    · exact hidle
    · rw [Completion.active, hdescribes.stem_eq] at hinactive
      cases hinactive
  have hstem : s.completion.stem = none := by rw [hidle]; rfl
  refine ⟨fun hnil => ⟨hidle, pressTabs_of_eq_nil hstem hnil characters⟩, fun hne hpressed => ?_⟩
  obtain ⟨first, others, rfl⟩ := List.exists_cons_of_ne_nil hpressed
  have hplain : Completion.Spaceless Builtin.registry s.fs := hs.resident.spaceless
  exact pressTabs_cons ⟨document, Builtin.registry⟩ hplain hstem rfl hne first others

/-- A line with an argument begun, in which the tab key has not been pressed. -/
def begun : Session :=
  (start ⟨.ofResume .sample, Builtin.registry⟩).1.setInput "cd e"

/-- Three presses lead once around and back to the first of two candidates. -/
theorem pressTabs_begun :
    Reached ⟨.ofResume .sample, Builtin.registry⟩ begun ∧ begun.completion.active = false ∧
      pressTabs ⟨.ofResume .sample, Builtin.registry⟩ begun ["", "", ""] =
        { begun with
          input := "cd experience", completion := ⟨some "e", ["experience", "education"], 0⟩ } := by
  have hreached : Reached ⟨.ofResume .sample, Builtin.registry⟩ begun :=
    .step .willing (.setInput "cd e") .start
  have hoptions : candidatesFor (Completion.candidates Builtin.registry begun.fs begun.input)
      (afterSpace begun.input) = ["experience", "education"] := by decide +kernel
  refine ⟨hreached, rfl, ?_⟩
  obtain ⟨-, hcycle⟩ := pressTabs_eq hreached rfl ["", "", ""]
  rw [hoptions] at hcycle
  obtain ⟨option, hget, hpressed⟩ := hcycle (by simp) (by simp)
  obtain rfl : "experience" = option := Option.some.inj hget
  rw [hpressed]
  have hinput : upToSpace begun.input ++ "experience" = "cd experience" := by decide +kernel
  have hword : afterSpace begun.input = "e" := by decide +kernel
  rw [hinput, hword]
  rfl

end Session

end VitaeShell
