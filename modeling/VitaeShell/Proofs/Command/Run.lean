import VitaeShell.Proofs.Command.Answer

/-!
# Running the built-in commands

The registry has an answer ready for commands that fail. The built-in ones do not need it: each sees
to its own arguments, to paths that lead nowhere and to a clipboard that refuses. Only a file that
holds something else than text makes them fail, and a search or a look at it is what it takes.

## Main results

* `exists_action_eq_ok`: with text in every file, no command fails.
* `action_fs`: only `cd` moves, and nothing else changes.
* `output_run_eq_clearSignal_iff`: only `clear` asks for an empty screen.
* `exists_answer_of_lookup`: a registered command answers by itself; what the registry says about
  failing commands is never said.
-/

namespace VitaeShell.Builtin

/-! ### No command fails on text -/

/-- Files that hold text can be searched. -/
theorem exists_searchFiles_eq_ok (keyword : String) {files : List (Path × Json)}
    (h : ∀ found ∈ files, ∃ content, found.2 = .text content) :
    ∃ found, searchFiles keyword files = .ok found := by
  induction files with
  | nil => exact ⟨[], rfl⟩
  | cons file rest ih =>
      obtain ⟨path, content⟩ := file
      obtain ⟨text, rfl⟩ := h (path, content) (by simp)
      obtain ⟨found, hfound⟩ := ih fun other hother => h other (.tail _ hother)
      exact ⟨matchesIn keyword path text ++ found, by rw [searchFiles, hfound]⟩

/-- Where all files hold text, `cat` always has an answer. -/
theorem exists_runCat_eq_ok (args : List String) {fs : FileSystem}
    (hfs : Entries.TextOnly fs.root) : ∃ output, runCat args fs = .ok output := by
  cases args with
  | nil => exact ⟨_, rfl⟩
  | cons name rest =>
      rw [runCat]
      split
      · next content hcontent =>
          obtain ⟨text, rfl⟩ := FileSystem.exists_text_of_fileContent hfs hcontent
          exact ⟨_, rfl⟩
      · exact ⟨_, rfl⟩

/-- Where all files hold text, `grep` always has an answer. -/
theorem exists_runGrep_eq_ok (args : List String) {fs : FileSystem}
    (hfs : Entries.TextOnly fs.root) : ∃ output, runGrep args fs = .ok output := by
  rcases args with _ | ⟨word, _ | ⟨other, rest⟩⟩
  · exact ⟨_, rfl⟩
  · simp only [runGrep]
    rcases hhere : fs.here? with _ | entries
    · rw [FileSystem.here_of_here?_eq_none hhere]
      exact ⟨_, rfl⟩
    · rw [FileSystem.here_eq_ok_iff.mpr hhere]
      obtain ⟨found, hfound⟩ :=
        exists_searchFiles_eq_ok (Text.lowercase word) (FileSystem.textOnly_here hfs hhere)
      simp only [hfound]
      cases found <;> exact ⟨_, rfl⟩
  · exact ⟨_, rfl⟩

/-- With text in every file, no command fails. -/
theorem exists_action_eq_ok (b : Builtin) (args : List String) {fs : FileSystem}
    (hfs : Entries.TextOnly fs.root) (clipboard : Clipboard) :
    ∃ answer, (b.action args fs clipboard).1 = .ok answer := by
  cases b with
  | cat =>
      obtain ⟨output, houtput⟩ := exists_runCat_eq_ok args hfs
      exact ⟨⟨output, fs⟩, by rw [action, houtput]; rfl⟩
  | grep =>
      obtain ⟨output, houtput⟩ := exists_runGrep_eq_ok args hfs
      exact ⟨⟨output, fs⟩, by rw [action, houtput]; rfl⟩
  | _ => exact ⟨_, rfl⟩

/-! ### What becomes of the file system -/

/-- Only `cd` moves, and it moves where its argument leads; whatever else is answered leaves the
file system as it is. -/
theorem action_fs {b : Builtin} {args : List String} {fs : FileSystem} {clipboard : Clipboard}
    {answer : Answer} (h : (b.action args fs clipboard).1 = .ok answer) :
    (answer.fs = fs ∧ (b = cd → ∃ fault, fs.enter (args.head?.getD "/") = .error fault)) ∨
      (b = cd ∧ fs.enter (args.head?.getD "/") = .ok answer.fs) := by
  cases b with
  | cd =>
      rw [action, Except.ok.injEq] at h
      subst h
      rw [runCd]
      split
      · next moved hmoved => exact .inr ⟨rfl, hmoved⟩
      · next fault hfault => exact .inl ⟨rfl, fun _ => ⟨fault, hfault⟩⟩
  | cat | grep =>
      rw [action] at h
      obtain ⟨output, -, rfl⟩ := exists_of_map_eq_ok h
      exact .inl ⟨rfl, by simp⟩
  | _ => cases h; exact .inl ⟨rfl, by simp⟩

/-! ### The registry -/

/-- No two commands have the same name. -/
theorem find?_name (b : Builtin) : all.find? (fun other => other.name = b.name) = some b := by
  cases b <;> rfl

/-- Different commands have different names. -/
theorem name_injective : Function.Injective name := by
  intro a b h
  have hfind := find?_name a
  rw [h, find?_name b, Option.some.injEq] at hfind
  exact hfind.symm

/-- Each command is found by its name. -/
theorem lookup_name (b : Builtin) : registry.lookup b.name = some b.command := by
  cases b <;> rfl

/-- A registered command is one of the twelve. -/
theorem exists_of_lookup {name : String} {command : Command}
    (h : registry.lookup name = some command) :
    ∃ b : Builtin, b.name = name ∧ b.command = command := by
  obtain ⟨before, after, hregistry, -⟩ := List.lookup_eq_some_iff.mp h
  have hmem : (name, command) ∈ registry := by rw [hregistry]; simp
  obtain ⟨b, -, hb⟩ := List.mem_map.mp hmem
  exact ⟨b, congrArg Prod.fst hb, congrArg Prod.snd hb⟩

/-- What the registry makes of an answer. -/
theorem run_of_action_eq_ok {b : Builtin} {args : List String} {fs : FileSystem}
    {clipboard : Clipboard} {answer : Answer} (h : (b.action args fs clipboard).1 = .ok answer) :
    registry.run ⟨b.name, args⟩ fs clipboard =
      ⟨answer, (b.action args fs clipboard).2, []⟩ := by
  rw [Registry.run, lookup_name]
  simp only [command]
  split
  · next haction => simp_all
  · next haction => simp_all

/-- What the registry makes of a failure. -/
theorem run_of_action_eq_error {b : Builtin} {args : List String} {fs : FileSystem}
    {clipboard : Clipboard} {message : String}
    (h : (b.action args fs clipboard).1 = .error message) :
    registry.run ⟨b.name, args⟩ fs clipboard =
      ⟨⟨Registry.failureMessage b.name message, fs⟩, (b.action args fs clipboard).2,
        [.commandFailed b.name]⟩ := by
  rw [Registry.run, lookup_name]
  simp only [command]
  split
  · next haction => simp_all
  · next haction => simp_all

/-- What the registry makes of a name that is no command's. -/
theorem run_of_forall_ne {line : CommandLine} (h : ∀ b : Builtin, b.name ≠ line.command)
    (fs : FileSystem) (clipboard : Clipboard) :
    registry.run line fs clipboard =
      ⟨⟨Registry.unknownMessage line.command, fs⟩, clipboard,
        [.unknownCommand line.command]⟩ := by
  have hlookup : registry.lookup line.command = none := by
    rw [Option.eq_none_iff_forall_ne_some]
    intro command hcommand
    obtain ⟨b, hb, -⟩ := exists_of_lookup hcommand
    exact h b hb
  rw [Registry.run, hlookup]

/-- The signal for an empty screen is what `clear` says, in any file system, and nothing else is. -/
theorem output_run_eq_clearSignal_iff (line : CommandLine) (fs : FileSystem)
    (clipboard : Clipboard) :
    (registry.run line fs clipboard).answer.output = clearSignal ↔ line.command = "clear" := by
  have hapart : Text.Apart troubleOpening clearSignal := by decide
  by_cases hname : ∃ b : Builtin, b.name = line.command
  · obtain ⟨name, args⟩ := line
    obtain ⟨b, rfl⟩ := hname
    have hclear : b.name = "clear" ↔ b = clear :=
      ⟨fun hb => name_injective hb, fun hb => by rw [hb]; rfl⟩
    rw [hclear]
    cases haction : (b.action args fs clipboard).1 with
    | ok answer =>
        rw [run_of_action_eq_ok haction]
        refine ⟨(answers_action haction).eq_clear, ?_⟩
        rintro rfl
        cases haction
        rfl
    | error message =>
        rw [run_of_action_eq_error haction]
        refine iff_of_false ?_ ?_
        · exact hapart.ne (Registry.startsWith_failureMessage _ _) (Text.startsWith_self _)
        · rintro rfl
          cases haction
  · have hne : ∀ b : Builtin, b.name ≠ line.command := by simpa using hname
    rw [run_of_forall_ne hne]
    refine iff_of_false ?_ (hne clear).symm
    exact hapart.ne (Registry.startsWith_unknownMessage _) (Text.startsWith_self _)

/-- **Commands answer by themselves.** With text in every file, a registered command answers
whatever its arguments, the current directory and the clipboard are: nothing is reported, what is
said about failing commands is never said, and the file system stays as it is unless `cd` reaches a
directory. -/
theorem exists_answer_of_lookup {line : CommandLine} {command : Command} {fs : FileSystem}
    (hcommand : registry.lookup line.command = some command) (hfs : Entries.TextOnly fs.root)
    (clipboard : Clipboard) :
    ∃ answer, (command.action line.args fs clipboard).1 = .ok answer ∧
      (registry.run line fs clipboard).answer = answer ∧
      (registry.run line fs clipboard).notices = [] ∧
      (∀ name message, answer.output ≠ Registry.failureMessage name message) ∧
      ((answer.fs = fs ∧ (line.command = "cd" →
          ∃ fault, fs.enter (line.args.head?.getD "/") = .error fault)) ∨
        (line.command = "cd" ∧ fs.enter (line.args.head?.getD "/") = .ok answer.fs ∧
          answer.fs.root = fs.root)) := by
  obtain ⟨name, args⟩ := line
  obtain ⟨b, rfl, rfl⟩ := exists_of_lookup hcommand
  obtain ⟨answer, hanswer⟩ := exists_action_eq_ok b args hfs clipboard
  have hrun := run_of_action_eq_ok hanswer
  refine ⟨answer, hanswer, by rw [hrun], by rw [hrun], fun name message => ?_, ?_⟩
  · exact (answers_action hanswer).ne_of_trouble (Registry.startsWith_failureMessage name message)
  · rcases action_fs hanswer with ⟨hsame, hstay⟩ | ⟨rfl, hmoved⟩
    · exact .inl ⟨hsame, fun hname => hstay (name_injective hname)⟩
    · obtain ⟨-, hroot⟩ := FileSystem.enter_eq_ok_iff.mp hmoved
      exact .inr ⟨rfl, hmoved, by rw [hroot]⟩

/-- A file system with an address to copy, the current directory of which is gone. -/
def stranded : FileSystem :=
  ⟨[("personalInfo", .dir [("contact", .dir [("email.txt", .ofText "jo@example.org")])])],
    ["gone"]⟩

/-- In a directory that does not exist and with no clipboard to write to, copying still answers. -/
theorem exists_answer_stranded :
    registry.lookup "copy" = some copy.command ∧ Entries.TextOnly stranded.root ∧
      ∃ answer, (copy.command.action ["EMAIL"] stranded (.unwilling "")).1 = .ok answer ∧
        answer.fs = stranded := by
  have htext : Entries.TextOnly stranded.root := by
    intro found hfound
    simp only [stranded, Entries.files, Entries.nodeFiles, Node.ofText, List.map_cons, List.map_nil,
      List.append_nil, List.mem_singleton] at hfound
    subst hfound
    exact ⟨"jo@example.org", rfl⟩
  have hcommand : registry.lookup (CommandLine.mk "copy" ["EMAIL"]).command = some copy.command :=
    lookup_name copy
  refine ⟨hcommand, htext, ?_⟩
  obtain ⟨answer, hanswer, -, -, -, hstay | ⟨hname, -⟩⟩ :=
    exists_answer_of_lookup hcommand htext (.unwilling "")
  · exact ⟨answer, hanswer, hstay.1⟩
  · exact absurd hname (by decide)

end VitaeShell.Builtin
