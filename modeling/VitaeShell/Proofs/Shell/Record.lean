import VitaeShell.Proofs.Shell.Agreement

/-!
# The line that is recorded

A line that names a command gets into the history once, whatever the command answers and whether or
not that can be drawn. The entry is the line as it was typed, with all its blanks, but for some
calls of help: there the shell has taken the line apart and puts it together again, with one space
behind the word. It hands on what was typed only if the result differs from it at the ends, and what
was spaced otherwise inside (`Respaced`) is lost.

## Main results

* `strip_eq_rejoined_iff`: the spacing that survives.
* `request_of_knows`: what a line that names a command asks for.
* `entries_dispatch`: a line that names a command is recorded as it was typed, or with one space.
* `entries_dispatch_spaced`: two spaces behind `help` become one.
-/

namespace VitaeShell.Shell

/-- What follows the word that the shell finds in front of a line. -/
def behindFrontWord (line : String) : List Char :=
  (Text.trim line.toList).dropWhile isShellChar

/-- A call of help is **respaced** if something else follows the word than a single space and then a
character that is no blank. -/
def Respaced (line : String) : Prop :=
  frontWord line = "help" ∧ behindFrontWord line ≠ [] ∧
    ¬∃ c rest, behindFrontWord line = ' ' :: c :: rest ∧ Text.isBlank c = false

variable {line : String}

/-! ### A call of help, taken apart and put together -/

/-- A line without the blanks around it is its first word and what stands behind. -/
theorem trim_eq_frontWord_append (line : String) :
    Text.trim line.toList = (frontWord line).toList ++ behindFrontWord line := by
  rw [frontWord, String.toList_ofList, behindFrontWord, List.takeWhile_append_dropWhile]

/-- What follows the front word does not end in a blank. -/
theorem isBlank_of_mem_getLast?_behindFrontWord (line : String) :
    ∀ c ∈ (behindFrontWord line).getLast?, Text.isBlank c = false := by
  intro c hc
  have hend := (Text.trim_eq_self_iff.mp (Text.trim_trim line.toList)).2
  refine hend c ?_
  rw [trim_eq_frontWord_append, List.getLast?_append, hc]
  rfl

/-- Something is left of what follows the front word once its blanks are taken off. -/
theorem trim_behindFrontWord_ne_nil (hrest : behindFrontWord line ≠ []) :
    Text.trim (behindFrontWord line) ≠ [] := by
  have hlast := List.getLast?_eq_getLast_of_ne_nil hrest
  exact List.ne_nil_of_mem (Text.mem_trim_of_mem (List.getLast_mem hrest)
    (isBlank_of_mem_getLast?_behindFrontWord line _ hlast))

/-- The argument of help and a space in front of it: there are no blanks left to take off. -/
theorem trim_help_append {argument : List Char} (h : Text.trim argument ≠ []) :
    Text.trim ("help ".toList ++ Text.trim argument) = "help ".toList ++ Text.trim argument := by
  rw [Text.trim_eq_self_iff]
  constructor
  · rintro c ⟨⟩
    decide
  · intro c hc
    rw [List.getLast?_append, List.getLast?_eq_getLast_of_ne_nil h, Option.some_or] at hc
    refine (Text.trim_eq_self_iff.mp (Text.trim_trim argument)).2 c ?_
    rw [List.getLast?_eq_getLast_of_ne_nil h]
    exact hc

/-- One space in front is what trimming takes off, if no blank follows it. -/
theorem behindFrontWord_eq_iff (hrest : behindFrontWord line ≠ []) :
    behindFrontWord line = ' ' :: Text.trim (behindFrontWord line) ↔
      ∃ c rest, behindFrontWord line = ' ' :: c :: rest ∧ Text.isBlank c = false := by
  constructor
  · intro heq
    obtain ⟨c, rest, htrim⟩ := List.exists_cons_of_ne_nil (trim_behindFrontWord_ne_nil hrest)
    have hhead : c ∈ (Text.trim (behindFrontWord line)).head? := by
      rw [htrim]
      rfl
    exact ⟨c, rest, by rw [heq, htrim], Text.isBlank_of_mem_head?_trim c hhead⟩
  · rintro ⟨c, rest, heq, hc⟩
    have hend : ∀ d ∈ (c :: rest).getLast?, Text.isBlank d = false := by
      intro d hd
      refine isBlank_of_mem_getLast?_behindFrontWord line d ?_
      rw [heq, List.getLast?_cons_cons]
      exact hd
    have htrim : Text.trim (c :: rest) = c :: rest := by
      rw [Text.trim_eq_self_iff]
      refine ⟨?_, hend⟩
      rintro d ⟨⟩
      exact hc
    rw [heq]
    exact congrArg (' ' :: ·) htrim.symm

/-- The line that the shell puts together for a call of help. -/
def rejoined (line : String) : String :=
  Text.strip ("help " ++ String.ofList (Text.trim (behindFrontWord line)))

/-- A call of help is put together again from the word and the rest without blanks around it. -/
theorem toList_rejoined (hrest : behindFrontWord line ≠ []) :
    (rejoined line).toList = "help ".toList ++ Text.trim (behindFrontWord line) := by
  have hchars : ("help " ++ String.ofList (Text.trim (behindFrontWord line))).toList =
      "help ".toList ++ Text.trim (behindFrontWord line) := by
    simp
  rw [rejoined, Text.toList_strip, hchars, trim_help_append (trim_behindFrontWord_ne_nil hrest)]

/-- **Blanks around a call of help are no difference to the shell, and those behind the word are**,
unless there is nothing behind it. -/
theorem strip_eq_rejoined_iff (hhelp : frontWord line = "help") :
    Text.strip line = rejoined line ↔ ¬Respaced line := by
  have htrim : Text.trim line.toList = "help".toList ++ behindFrontWord line := by
    rw [trim_eq_frontWord_append, hhelp]
  rw [← String.toList_inj, Text.toList_strip, htrim]
  by_cases hrest : behindFrontWord line = []
  · have hword : (rejoined line).toList = "help".toList := by
      rw [rejoined, hrest]
      decide
    rw [hword, hrest, List.append_nil]
    exact iff_of_true rfl fun h => h.2.1 hrest
  · have hspaced : "help ".toList ++ Text.trim (behindFrontWord line) =
        "help".toList ++ ' ' :: Text.trim (behindFrontWord line) := rfl
    rw [toList_rejoined hrest, hspaced, List.append_cancel_left_eq, behindFrontWord_eq_iff hrest]
    constructor
    · rintro hsome ⟨-, -, hnone⟩
      exact hnone hsome
    · intro h
      by_contra hnone
      exact h ⟨hhelp, hrest, hnone⟩

/-- What is handed on for a call of help: the line as typed, or the line put together. -/
theorem helpLine_eq (line : String) :
    helpLine line (String.ofList (Text.trim (behindFrontWord line))) =
      if Text.strip line = rejoined line then line else rejoined line := by
  have hstrip : Text.strip (rejoined line) = rejoined line := Text.strip_strip _
  rw [helpLine, ← rejoined, hstrip]

/-! ### Lines that name a command -/

section Known

variable {setting : ShellSetting} (hregistry : setting.registry = Builtin.registry)
  (hknown : setting.registry.knows (CommandLine.parse line) = true)

include hregistry hknown

/-- A line that names a command names one of the built-in ones. -/
theorem exists_name_eq : ∃ b : Builtin, b.name = (CommandLine.parse line).command := by
  rw [hregistry, Registry.knows, Option.isSome_iff_exists] at hknown
  obtain ⟨command, hcommand⟩ := hknown
  obtain ⟨b, hname, -⟩ := Builtin.exists_of_lookup hcommand
  exact ⟨b, hname⟩

/-- A line that names a command is not blank. -/
theorem isBlankText_of_knows : Text.isBlankText line = false := by
  rw [← Bool.not_eq_true, Text.isBlankText_iff]
  intro hnil
  have hempty : CommandLine.parse "" = ⟨"", []⟩ := by decide +kernel
  have hstrip : Text.strip line = Text.strip "" := by
    rw [Text.strip, hnil]
    rfl
  have hparse : CommandLine.parse line = ⟨"", []⟩ := by
    rw [← hempty, CommandLine.parse, CommandLine.parse, hstrip]
  rw [hparse, hregistry] at hknown
  exact absurd hknown (by decide)

variable (hmark : (Text.trim line.toList).head? ≠ some '?')

include hmark

/-- **A line that names a command is handed on**, in other words only if it calls for help. -/
theorem request_of_knows :
    request line = .submit (if frontWord line = "help" then
      helpLine line (String.ofList (Text.trim (behindFrontWord line))) else line) := by
  obtain ⟨b, hname⟩ := exists_name_eq hregistry hknown
  rw [request_eq hmark (isBlankText_of_knows hregistry hknown)]
  by_cases hown : frontWord line ∈ ownWords
  · obtain ⟨more, rest, -, hmimics, hparse⟩ := exists_parse_eq hmark hown
    have hmore : more = [] := by
      by_contra hmore
      exact (hmimics.mpr hmore).name_ne hmark b hname
    have hhelp : frontWord line = "help" := by
      -- no command has the name of another word of the shell
      by_contra hother
      have hmem := lowercase_mem_of_mem_ownWords _ hown hother
      rw [hmore, List.append_nil, String.ofList_toList] at hparse
      rw [hparse] at hname
      simp only at hname
      rw [← hname] at hmem
      revert hmem
      cases b <;> decide
    rw [if_pos hhelp, hhelp]
    rfl
  · have hhelp : frontWord line ≠ "help" := by
      rintro heq
      exact hown (by rw [heq]; decide)
    rw [if_neg hhelp, requestOf_of_notMem hown]

end Known

/-- **A line that names a command is recorded once**, after all that was recorded before, whichever
way the shell finds to it. The entry is the line character for character as it was typed, unless the
line calls for help respaced. Then the entry is not the line: the word and its argument stand one
space apart, and the blanks around them are gone. -/
theorem entries_dispatch {setting : ShellSetting} (hregistry : setting.registry = Builtin.registry)
    (shell : Shell) {line : String} (hmark : (Text.trim line.toList).head? ≠ some '?')
    (hknown : setting.registry.knows (CommandLine.parse line) = true) :
    ∃ entry,
      (shell.dispatch setting line).shell.session.history.entries =
        shell.session.history.entries ++ [entry] ∧
      (¬Respaced line → entry = line) ∧
      (Respaced line → entry ≠ line ∧
        entry.toList = "help ".toList ++ Text.trim (behindFrontWord line)) := by
  have hdispatch (handed : String) (hrequest : request line = .submit handed)
      (hhanded : setting.registry.knows (CommandLine.parse handed) = true) :
      (shell.dispatch setting line).shell.session.history.entries =
        shell.session.history.entries ++ [handed] := by
    rw [dispatch_eq_perform, hrequest, perform, undecided, submit_session,
      Session.submitLine_entries, if_pos hhanded]
    rfl
  have hrequest := request_of_knows hregistry hknown hmark
  by_cases hhelp : frontWord line = "help"
  · rw [if_pos hhelp] at hrequest
    have hread : setting.registry.knows (CommandLine.parse (helpLine line
        (String.ofList (Text.trim (behindFrontWord line))))) = true := by
      rw [parse_helpLine, hregistry]
      rfl
    refine ⟨_, hdispatch _ hrequest hread, fun hsame => ?_, fun hother => ?_⟩
    · rw [helpLine_eq, if_pos ((strip_eq_rejoined_iff hhelp).mpr hsame)]
    · have hdiffer : Text.strip line ≠ rejoined line :=
        fun heq => (strip_eq_rejoined_iff hhelp).mp heq hother
      rw [helpLine_eq, if_neg hdiffer]
      -- the line put together has no blanks at its ends
      exact ⟨fun heq => hdiffer ((congrArg Text.strip heq).symm.trans (Text.strip_strip _)),
        toList_rejoined hother.2.1⟩
  · rw [if_neg hhelp] at hrequest
    exact ⟨line, hdispatch line hrequest hknown, fun _ => rfl, fun h => absurd h.1 hhelp⟩

/-- Only the word as the shell knows it is taken apart, and blanks around the line do no harm. -/
theorem entries_dispatch_roundabout :
    let setting := usual (.ofResume .sample) 80
    let line := "\t HELP   \"pwd\"  "
    setting.registry = Builtin.registry ∧ (Text.trim line.toList).head? ≠ some '?' ∧
      setting.registry.knows (CommandLine.parse line) = true ∧ ¬Respaced line ∧
      (opened.dispatch setting line).shell.session.history.entries =
        opened.session.history.entries ++ [line] := by
  intro setting line
  have hmark : (Text.trim line.toList).head? ≠ some '?' := by decide
  have hknown : setting.registry.knows (CommandLine.parse line) = true := by decide +kernel
  have hplain : ¬Respaced line := fun h => absurd h.1 (by decide)
  obtain ⟨entry, hentries, hentry, -⟩ := entries_dispatch rfl opened hmark hknown
  rw [hentry hplain] at hentries
  exact ⟨rfl, hmark, hknown, hplain, hentries⟩

/-- **Two spaces behind `help` become one** in the history. -/
theorem entries_dispatch_spaced :
    let setting := usual (.ofResume .sample) 80
    (Text.trim "help  pwd".toList).head? ≠ some '?' ∧
      setting.registry.knows (CommandLine.parse "help  pwd") = true ∧
      (opened.dispatch setting "help  pwd").shell.session.history.entries = ["help pwd"] := by
  intro setting
  have hrequest : request "help  pwd" = .submit "help pwd" := by decide
  have hknown : setting.registry.knows (CommandLine.parse "help pwd") = true := by decide +kernel
  refine ⟨by decide, by decide +kernel, ?_⟩
  rw [dispatch_eq_perform, hrequest, perform, undecided, submit_session,
    Session.submitLine_entries, if_pos hknown]
  rfl

end VitaeShell.Shell
