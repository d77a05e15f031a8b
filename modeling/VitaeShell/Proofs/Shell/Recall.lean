import VitaeShell.Proofs.Shell.Agreement

/-!
# Lines for recall

The editor keeps each line that is typed, before the shell runs it, and the shell takes it back if
the session did not record it. So the lines for recall and the history go side by side, except that
the shell does not look at a blank line, which stays. That is the only way in which the two lists
can come apart: without the blank ones, the lines for recall are those that were typed for the
entries of the history, one for one and in the same order (`Recalls`).

What a line hands to the session need not be the line itself, but it then is a call of `help`, which
the session records. So whatever is to be taken back is the line that was typed.

## Main results

* `Recalls.typeLine`: typing a line keeps the two lists side by side.
* `exists_recalls_of_mem_typeLines`: so does typing any number of lines.
* `recallable_of_mem_typeLines`: starting with two empty lists, there are as many lines for recall
  as entries unless a blank line is among them.
-/

namespace VitaeShell.Shell

/-! ### Typing lines -/

/-- The runs of one line after the other, each of which the editor keeps first. -/
def typeLines (setting : ShellSetting) (shell : Shell) : List String → List (Run (Option Bool))
  | [] => []
  | line :: lines =>
    let run := (shell.keep line).runLine setting line
    run :: typeLines setting run.shell lines

/-- The line that a request hands to the session. -/
def Request.line? : Request → Option String
  | .submit line => some line
  | _ => none

variable {setting : ShellSetting} {shell : Shell} {line : String} {typed kept : List String}

/-! ### What a run does to the two lists -/

/-- The last of the lines kept is dropped. -/
theorem dropLast_concat (line : String) (lines : List String) :
    dropLast line (lines ++ [line]) = lines := by
  rw [dropLast, if_pos List.getLast?_concat, List.dropLast_concat]

/-- To keep a line leaves the session as it is. -/
theorem keep_session (shell : Shell) (line : String) :
    (shell.keep line).session = shell.session := by
  rw [keep]
  split <;> rfl

/-- A line that is not empty is kept behind the others. -/
theorem keep_recallable (shell : Shell) (hline : line ≠ "") :
    (shell.keep line).recallable = shell.recallable.map (· ++ [line]) := by
  rw [keep, if_neg hline]

/-- A line that the registry knows stays; another one is taken back if it was the last. -/
theorem submit_recallable (setting : ShellSetting) (shell : Shell) (line : String) :
    (shell.submit setting line).shell.recallable =
      if setting.registry.knows (CommandLine.parse line) then shell.recallable
      else shell.recallable.map (dropLast line) := by
  obtain ⟨glyphs, hshell⟩ := exists_submit_shell_eq setting shell line
  rw [hshell, Session.submitLine_entries]
  by_cases hknows : setting.registry.knows (CommandLine.parse line) = true
  · simp [hknows]
  · simp [hknows]

/-- Bringing the prompt up to date changes nothing else. -/
theorem runLine_frame (setting : ShellSetting) (shell : Shell) (line : String) :
    (shell.runLine setting line).shell.session = (shell.dispatch setting line).shell.session ∧
      (shell.runLine setting line).shell.recallable =
        (shell.dispatch setting line).shell.recallable := by
  obtain ⟨result, prompt, hrun, -⟩ := exists_runLine_eq setting shell line
  rw [hrun]
  exact ⟨rfl, rfl⟩

/-! ### One line -/

/-- A shell **recalls** the lines typed that the session recorded, and the blank ones besides. -/
structure Recalls (typed kept : List String) (shell : Shell) : Prop where
  recallable_eq : shell.recallable = some kept
  /-- The lines for recall are in the order in which they were typed, and none is empty. -/
  sublist : kept.Sublist (typed.filter (· ≠ ""))
  /-- The entries of the history are what those lines that are not blank handed on. -/
  entries_eq : shell.session.history.entries.map some =
    (kept.filter fun line => !Text.isBlankText line).map fun line => (request line).line?

/-- What is recalled depends on the two lists only. -/
theorem Recalls.congr {shell' : Shell} (h : Recalls typed kept shell)
    (hrecallable : shell'.recallable = shell.recallable)
    (hentries : shell'.session.history.entries = shell.session.history.entries) :
    Recalls typed kept shell' := by
  refine ⟨hrecallable.trans h.recallable_eq, h.sublist, ?_⟩
  rw [hentries]
  exact h.entries_eq

/-- A line of which nothing is left may have been typed as well. -/
theorem Recalls.skip (h : Recalls typed kept shell) (line : String) :
    Recalls (typed ++ [line]) kept shell := by
  refine ⟨h.recallable_eq, h.sublist.trans ?_, h.entries_eq⟩
  rw [List.filter_append]
  exact List.sublist_append_left _ _

/-- A shell recalls a line that is kept with what it handed on. -/
theorem Recalls.concat (h : Recalls typed kept shell) (hline : line ≠ "") {shell' : Shell}
    (hrecallable : shell'.recallable = some (kept ++ [line]))
    (hentries : shell'.session.history.entries.map some =
      shell.session.history.entries.map some ++
        ([line].filter fun line => !Text.isBlankText line).map fun line => (request line).line?) :
    Recalls (typed ++ [line]) (kept ++ [line]) shell' := by
  refine ⟨hrecallable, ?_, ?_⟩
  · rw [List.filter_append]
    refine h.sublist.append ?_
    simp [hline]
  · rw [hentries, h.entries_eq, List.filter_append, List.map_append]

/-- **Typing a line** keeps the lines for recall and the history side by side. -/
theorem Recalls.typeLine (h : Recalls typed kept shell)
    (hregistry : setting.registry = Builtin.registry) (line : String) :
    ∃ kept', Recalls (typed ++ [line]) kept' ((shell.keep line).runLine setting line).shell := by
  obtain ⟨hsession, hrecallable⟩ := runLine_frame setting (shell.keep line) line
  suffices hdispatch : ∃ kept', Recalls (typed ++ [line]) kept'
      ((shell.keep line).dispatch setting line).shell by
    obtain ⟨kept', hkept⟩ := hdispatch
    exact ⟨kept', hkept.congr hrecallable (by rw [hsession])⟩
  rw [dispatch_eq_perform]
  by_cases hempty : line = ""
  · -- the editor does not keep an empty line
    subst hempty
    exact ⟨kept, (h.skip "").congr rfl rfl⟩
  have hkeep : (shell.keep line).recallable = some (kept ++ [line]) := by
    rw [keep_recallable shell hempty, h.recallable_eq]
    rfl
  have hbefore := keep_session shell line
  generalize shell.keep line = start at *
  rcases request_cases line with ⟨hblank, hrequest⟩ |
    ⟨hblank, ⟨handed, hrequest, hhanded⟩ | hrequest | ⟨atEnd, hrequest⟩⟩
  · -- a blank line stays, though it is not recorded
    rw [hrequest]
    refine ⟨kept ++ [line], h.concat hempty hkeep ?_⟩
    rw [perform, noted, hbefore]
    simp [hblank]
  · have hentries : ((start.noted line).submit setting handed).shell.session.history.entries =
        if setting.registry.knows (CommandLine.parse handed) then
          shell.session.history.entries ++ [handed]
        else shell.session.history.entries := by
      rw [submit_session, Session.submitLine_entries, noted, hbefore]
    have hrecall := submit_recallable setting (start.noted line) handed
    rw [hrequest, perform]
    by_cases hknows : setting.registry.knows (CommandLine.parse handed) = true
    · rw [if_pos hknows] at hentries hrecall
      refine ⟨kept ++ [line], h.concat hempty (hrecall.trans hkeep) ?_⟩
      rw [undecided, hentries]
      simp [hblank, hrequest, Request.line?]
    · -- what is not recorded was handed on as it was typed
      obtain rfl : handed = line := by
        refine hhanded.resolve_right ?_
        rintro ⟨args, hargs⟩
        rw [hargs, hregistry] at hknows
        exact hknows rfl
      rw [if_neg hknows] at hentries hrecall
      refine ⟨kept, (h.skip handed).congr ?_ hentries⟩
      rw [undecided, hrecall, noted, hkeep, h.recallable_eq, Option.map_some, dropLast_concat]
  · rw [hrequest]
    refine ⟨[], ?_, List.nil_sublist _, rfl⟩
    rw [perform, undecided, refresh, noted, hkeep]
    rfl
  · have hforget : (start.noted line).leave.shell.recallable = shell.recallable := by
      rw [leave, forget, noted, hkeep, h.recallable_eq, Option.map_some, dropLast_concat]
    rw [hrequest]
    cases atEnd with
    | false => exact ⟨kept, (h.skip line).congr hforget (by rw [← hbefore]; rfl)⟩
    | true => exact ⟨kept, (h.skip line).congr hforget (by rw [← hbefore]; rfl)⟩

/-! ### Any number of lines -/

/-- More lines may have been typed. -/
theorem Recalls.mono {more : List String} (h : Recalls typed kept shell)
    (hsub : typed.Sublist more) : Recalls more kept shell :=
  ⟨h.recallable_eq, h.sublist.trans (hsub.filter _), h.entries_eq⟩

/-- **Typing any number of lines** keeps the lines for recall and the history side by side, after
each of them. -/
theorem exists_recalls_of_mem_typeLines (h : Recalls typed kept shell)
    (hregistry : setting.registry = Builtin.registry) (lines : List String) :
    ∀ run ∈ typeLines setting shell lines, ∃ kept', Recalls (typed ++ lines) kept' run.shell := by
  induction lines generalizing typed kept shell with
  | nil =>
      intro run hrun
      cases hrun
  | cons line lines ih =>
      intro run hrun
      obtain ⟨kept', hkept⟩ := h.typeLine hregistry line
      rw [List.append_cons]
      rw [typeLines] at hrun
      rcases List.mem_cons.mp hrun with rfl | hrun
      · exact ⟨kept', hkept.mono (List.sublist_append_left _ _)⟩
      · exact ih hkept run hrun

/-- There are as many lines for recall as entries if no blank one is among them. -/
theorem Recalls.length_eq_iff (h : Recalls typed kept shell) :
    kept.length = shell.session.history.entries.length ↔
      ∀ line ∈ kept, Text.isBlankText line = false := by
  have hlength := congrArg List.length h.entries_eq
  rw [List.length_map, List.length_map] at hlength
  rw [hlength, eq_comm, List.length_filter_eq_length_iff]
  simp

/-- **The lines for recall are those that were recorded, but for blank ones.** Start a shell with
nothing to recall and an empty history, and let the editor keep each line before it is run. After
every line, the lines for recall that are not blank are, one for one and in order, those that handed
on the entries of the history. So there are as many lines for recall as entries exactly if no blank
line is among them, and always if no blank line was typed but the empty one. -/
theorem recallable_of_mem_typeLines {setting : ShellSetting} {shell : Shell}
    (hregistry : setting.registry = Builtin.registry) (hrecallable : shell.recallable = some [])
    (hentries : shell.session.history.entries = []) (lines : List String) :
    ∀ run ∈ typeLines setting shell lines, ∃ kept,
      run.shell.recallable = some kept ∧ kept.Sublist lines ∧
      run.shell.session.history.entries.map some =
        (kept.filter fun line => !Text.isBlankText line).map (fun line => (request line).line?) ∧
      (kept.length = run.shell.session.history.entries.length ↔
        ∀ line ∈ kept, Text.isBlankText line = false) ∧
      ((∀ line ∈ lines, Text.isBlankText line = true → line = "") →
        kept.length = run.shell.session.history.entries.length) := by
  intro run hrun
  have hstart : Recalls [] [] shell := ⟨hrecallable, List.nil_sublist _, by rw [hentries]; rfl⟩
  obtain ⟨kept, hkept⟩ := exists_recalls_of_mem_typeLines hstart hregistry lines run hrun
  rw [List.nil_append] at hkept
  refine ⟨kept, hkept.recallable_eq, hkept.sublist.trans List.filter_sublist, hkept.entries_eq,
    hkept.length_eq_iff, fun hlines => hkept.length_eq_iff.mpr fun line hline => ?_⟩
  have hmem := List.mem_filter.mp (hkept.sublist.subset hline)
  rw [← Bool.not_eq_true]
  intro hblank
  exact of_decide_eq_true hmem.2 (hlines line hmem.1 hblank)

/-- A shell that has just been opened on the sample résumé, with nothing to recall. -/
def fresh : Shell :=
  { opened with recallable := some [] }

/-- Lines that are handed on as they stand and in other words, are not known, are for the shell, or
are empty. -/
def mixed : List String :=
  ["exit", "  help pwd ", "", "nope", "?  ls", "refresh!", "PWD", "PWD", "quit"]

/-- Lines of all kinds but blank ones leave as many lines for recall as entries. -/
theorem recallable_of_mem_mixed :
    (usual (.ofResume .sample) 80).registry = Builtin.registry ∧ fresh.recallable = some [] ∧
      fresh.session.history.entries = [] ∧
      (∀ line ∈ mixed, Text.isBlankText line = true → line = "") ∧
      ∀ run ∈ typeLines (usual (.ofResume .sample) 80) fresh mixed, ∃ kept,
        run.shell.recallable = some kept ∧
          kept.length = run.shell.session.history.entries.length := by
  have hlines : ∀ line ∈ mixed, Text.isBlankText line = true → line = "" := by decide
  have hregistry : (usual (.ofResume .sample) 80).registry = Builtin.registry := rfl
  refine ⟨hregistry, rfl, rfl, hlines, fun run hrun => ?_⟩
  obtain ⟨kept, hrecallable, -, -, -, hlength⟩ :=
    recallable_of_mem_typeLines hregistry rfl rfl mixed run hrun
  exact ⟨kept, hrecallable, hlength hlines⟩

/-- **A blank line stays to be recalled**, though the session did not record it. -/
theorem recallable_after_blank :
    ∃ run ∈ typeLines (usual (.ofResume .sample) 80) fresh [" "],
      run.shell.recallable = some [" "] ∧ run.shell.session.history.entries = [] := by
  have hrequest : request " " = .nothing := by decide
  obtain ⟨hsession, hrecallable⟩ :=
    runLine_frame (usual (.ofResume .sample) 80) (fresh.keep " ") " "
  rw [dispatch_eq_perform, hrequest] at hsession hrecallable
  refine ⟨_, List.mem_singleton_self _, hrecallable, ?_⟩
  rw [hsession]
  rfl

end VitaeShell.Shell
