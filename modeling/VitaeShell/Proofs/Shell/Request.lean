import VitaeShell.Proofs.Line.Argument
import VitaeShell.Shell

/-!
# What a line asks of the shell

A line is first taken apart by the shell, which looks for one of its own words in front, and only
then, if it is submitted, by the reader of command lines. What the line asks for (`request`) is told
by the line alone, and what the shell does is told by what is asked for (`dispatch_eq_perform`). So
whatever is to be said of the shell and a line can be said for the four kinds of requests.

The two ways to take a line apart are not the same. The shell reads letters, digits and underscores
of ASCII and stops there; a word of a command line goes on up to a blank or a quote. A line such as
`exit!` therefore *mimics* a word of the shell: it is no line with that word (`Mimics`), and the
shell takes it for one.

## Main results

* `dispatch_eq_perform`: what a shell does with a line is what the line asks for.
* `exists_runLine_eq`: the prompt apart, running a line is just that.
* `request_cases`: what a line can ask for.
* `exists_tokens_eq`: how the front of a line looks to the shell, and how to the reader.
* `exists_parse_eq`: how a line with a word of the shell in front is read.
* `exists_request_eq_submit`: a line that mimics nothing and has none of the words is submitted as
  a line that is read in the same way.
-/

namespace VitaeShell.Shell

/-! ### Requests -/

/-- What a line asks of the shell. -/
inductive Request where
  | nothing
  | submit (line : String)
  | refresh
  /-- To leave; at the end of the input on a line of its own. -/
  | leave (atEnd : Bool)
deriving DecidableEq, Repr

/-- The words that the shell takes for itself. -/
def ownWords : List String :=
  ["help", "refresh", "exit", "quit", "EOF"]

/-- The line that asks for help with an argument, as it was typed if only blanks around it make the
difference. -/
def helpLine (typed argument : String) : String :=
  if Text.strip typed = Text.strip (Text.strip ("help " ++ argument)) then typed
  else Text.strip ("help " ++ argument)

/-- What a line asks for that has the given word in front and the given argument behind it. -/
def requestOf (typed word argument : String) : Request :=
  match word with
  | "help" => .submit (helpLine typed argument)
  | "refresh" => .refresh
  | "exit" => .leave false
  | "quit" => .leave false
  | "EOF" => .leave true
  | _ => .submit typed

/-- What a line asks for. -/
def request (typed : String) : Request :=
  let stripped := Text.trim typed.toList
  if stripped.isEmpty then .nothing
  else
    let parts := splitCommand stripped
    requestOf typed (String.ofList parts.1) (String.ofList parts.2.1)

/-- Does what is asked for. -/
def perform (setting : ShellSetting) (shell : Shell) : Request → Run (Option Bool)
  | .nothing => { result := .ok (some false), shell := shell }
  | .submit line => undecided (shell.submit setting line)
  | .refresh => undecided (shell.refresh setting)
  | .leave false => shell.leave
  | .leave true => { shell.leave with writes := "\n" :: shell.leave.writes }

/-- A shell that has taken note of a line. -/
def noted (shell : Shell) (typed : String) : Shell :=
  { shell with typed := typed }

/-! ### The front of a line -/

/-- The characters that the shell reads as a word. -/
def isShellChar (c : Char) : Bool :=
  (c.toNat < 0x80 && c.isAlphanum) || c = '_'

/-- A character of a word of the shell may be part of a plain word. -/
theorem isWordChar_of_isShellChar {c : Char} (h : isShellChar c = true) : isWordChar c = true := by
  apply isWordChar_of_isSegmentChar
  rw [isShellChar, Bool.or_eq_true] at h
  rcases h with h | h
  · simp [isSegmentChar, h]
  · simp [isSegmentChar, h]

/-- What the shell finds in front of a line, and what behind it. -/
theorem splitCommand_of_head? {cs : List Char} (h : cs.head? ≠ some '?') :
    splitCommand cs = (cs.takeWhile isShellChar, Text.trim (cs.dropWhile isShellChar), cs) := by
  have hdrop : cs.drop (cs.takeWhile isShellChar).length = cs.dropWhile isShellChar := by
    have hcut : cs.takeWhile isShellChar ++ cs.dropWhile isShellChar = cs :=
      List.takeWhile_append_dropWhile
    calc cs.drop (cs.takeWhile isShellChar).length
        = (cs.takeWhile isShellChar ++ cs.dropWhile isShellChar).drop
            (cs.takeWhile isShellChar).length := by rw [hcut]
      _ = cs.dropWhile isShellChar := List.drop_left ..
  rw [← hdrop]
  cases cs with
  | nil => rfl
  | cons c rest =>
      have hc : c ≠ '?' := by simpa using h
      rw [splitCommand]
      · rfl
      · rintro rest' heq
        exact hc (List.cons.inj heq).1

/-! ### Doing what is asked for -/

/-- A line that is submitted as it stands is submitted as it was typed. -/
theorem submitTyped_noted (setting : ShellSetting) (shell : Shell) {typed : String}
    (h : Text.trim typed.toList ≠ []) :
    (shell.noted typed).submitTyped setting (String.ofList (Text.trim typed.toList)) =
      (shell.noted typed).submit setting typed := by
  have hblank : Text.isBlankText (String.ofList (Text.trim typed.toList)) = false := by
    rw [← Bool.not_eq_true, Text.isBlankText_iff, String.toList_ofList, Text.trim_trim]
    exact h
  have hstrip : Text.strip typed = Text.strip (String.ofList (Text.trim typed.toList)) :=
    (Text.strip_strip typed).symm
  rw [submitTyped, hblank, if_neg (by simp), asTyped, noted, if_pos hstrip]

/-- What a line asks for, unless it is blank, depends on its first word. -/
theorem request_of_ne_nil {typed : String} (h : Text.trim typed.toList ≠ []) :
    request typed = requestOf typed
      (String.ofList (splitCommand (Text.trim typed.toList)).1)
      (String.ofList (splitCommand (Text.trim typed.toList)).2.1) := by
  have hempty : (Text.trim typed.toList).isEmpty = false := by simpa using h
  simp only [request, hempty, Bool.false_eq_true, if_false]

/-- With another word in front, a line is submitted as it was typed. -/
theorem requestOf_of_notMem {word : String} (h : word ∉ ownWords) (typed argument : String) :
    requestOf typed word argument = .submit typed := by
  simp only [ownWords, List.mem_cons, List.not_mem_nil, or_false, not_or] at h
  obtain ⟨hhelp, hrefresh, hexit, hquit, heof⟩ := h
  rw [requestOf] <;> assumption

/-- **What a shell does with a line is what the line asks for.** -/
theorem dispatch_eq_perform (setting : ShellSetting) (shell : Shell) (typed : String) :
    shell.dispatch setting typed = (shell.noted typed).perform setting (request typed) := by
  by_cases hnil : Text.trim typed.toList = []
  · simp only [dispatch, request, hnil, List.isEmpty_nil, if_true]
    rfl
  · have hempty : (Text.trim typed.toList).isEmpty = false := by simpa using hnil
    have hsubmit := submitTyped_noted setting shell hnil
    rw [request_of_ne_nil hnil, dispatch]
    simp only [hempty, Bool.false_eq_true, if_false]
    by_cases hmark : (Text.trim typed.toList).head? = some '?'
    · obtain ⟨rest, hrest⟩ : ∃ rest, Text.trim typed.toList = '?' :: rest :=
        List.head?_eq_some_iff.mp hmark
      rw [hrest]
      rfl
    · rw [splitCommand_of_head? hmark]
      simp only
      generalize String.ofList ((Text.trim typed.toList).takeWhile isShellChar) = word
      split
      · rfl
      · rfl
      · rfl
      · rfl
      · rfl
      · rw [requestOf, perform, ← hsubmit]
        · rfl
        all_goals assumption

/-- Bringing the prompt up to date changes nothing else; it can only turn a result into a fault. -/
theorem exists_runLine_eq (setting : ShellSetting) (shell : Shell) (line : String) :
    let run := shell.dispatch setting line
    ∃ result prompt, shell.runLine setting line =
        { run with result := result, shell := { run.shell with prompt := prompt } } ∧
      ∀ fault, run.result = .error fault → result = .error fault := by
  rw [runLine]
  generalize shell.dispatch setting line = run
  obtain ⟨result, after, writes, notices⟩ := run
  cases result with
  | error fault => exact ⟨.error fault, after.prompt, rfl, fun _ h => h⟩
  | ok value =>
      simp only [updatePrompt]
      cases promptFor setting.template after.session.fs.cwd with
      | ok prompt => exact ⟨.ok value, prompt, rfl, fun _ h => h⟩
      | error fault => exact ⟨.error (.template fault), after.prompt, rfl, by simp⟩

/-! ### The front of a line, to the shell and to the reader -/

/-- **The first word.** Where the shell finds a word in front, the first word of the line for the
reader is that word with what goes on behind it up to a blank or a quote. -/
theorem exists_tokens_eq {cs : List Char} (hword : cs.takeWhile isShellChar ≠ []) :
    ∃ more rest, cs.dropWhile isShellChar = more ++ rest ∧
      tokensOf cs = (cs.takeWhile isShellChar ++ more) :: tokensOf rest := by
  refine ⟨(cs.dropWhile isShellChar).takeWhile isWordChar,
    (cs.dropWhile isShellChar).dropWhile isWordChar,
    List.takeWhile_append_dropWhile.symm, ?_⟩
  conv_lhs => rw [← List.takeWhile_append_dropWhile (p := isShellChar) (l := cs),
    ← List.takeWhile_append_dropWhile (p := isWordChar) (l := cs.dropWhile isShellChar),
    ← List.append_assoc]
  refine tokensOf_run (by simp [hword]) (fun c hc => ?_) (fun c hc => ?_)
  · rcases List.mem_append.mp hc with hc | hc
    · exact isWordChar_of_isShellChar (List.mem_takeWhile_imp hc)
    · exact List.mem_takeWhile_imp hc
  · have hhead := List.head?_dropWhile_not isWordChar (cs.dropWhile isShellChar)
    rw [hc] at hhead
    simpa using hhead

/-- Whether a line **mimics** a word of the shell: the shell finds one of its words in front, and
the first word of the line is not that word. -/
def Mimics (line : String) : Prop :=
  String.ofList (splitCommand (Text.trim line.toList)).1 ∈ ownWords ∧
    (tokens line).head? ≠ some (String.ofList (splitCommand (Text.trim line.toList)).1)

instance (line : String) : Decidable (Mimics line) :=
  inferInstanceAs (Decidable (_ ∧ _))

/-! ### Reading a line with a word of the shell in front -/

/-- None of the words of the shell makes a line begin like `cd..`. -/
theorem not_prefix_of_mem_ownWords :
    ∀ word ∈ ownWords, ¬word.toList.flatMap Text.lowerLetter <+: "cd..".toList := by
  decide

/-- There is no capital sigma in a word of the shell. -/
theorem sigma_notMem_ownWords :
    ∀ word ∈ ownWords, word.toList.all (fun c => c.toNat != 0x3a3) = true := by
  decide

/-- The words of the shell but `help` are no commands of the session, in lowercase. -/
theorem lowercase_mem_of_mem_ownWords :
    ∀ word ∈ ownWords, word ≠ "help" →
      Text.lowercase word ∈ ["refresh", "exit", "quit", "eof"] := by
  decide

/-- A word of the shell in front of a text is lowercased on its own. -/
theorem exists_lower_ownWord {word : String} (hword : word ∈ ownWords) (rest : List Char) :
    ∃ tail, Text.lower (word.toList ++ rest) = word.toList.flatMap Text.lowerLetter ++ tail ∧
      (tail = [] ↔ rest = []) := by
  refine Text.exists_lower_append (fun c hc => ?_) rest
  simpa using List.all_eq_true.mp (sigma_notMem_ownWords word hword) c hc

/-- A line with a word of the shell in front is read by its words. -/
theorem parse_of_ownWord {line word name : String} {rest : List Char} {args : List String}
    (hword : word ∈ ownWords) (hfront : Text.trim line.toList = word.toList ++ rest)
    (htokens : tokens line = name :: args) :
    CommandLine.parse line = ⟨Text.lowercase name, args⟩ := by
  have hshort : Text.lowercase (Text.strip line) ≠ "cd.." := by
    intro heq
    obtain ⟨tail, htail, -⟩ := exists_lower_ownWord hword rest
    refine not_prefix_of_mem_ownWords word hword ⟨tail, ?_⟩
    rw [← htail, ← hfront, ← Text.toList_strip, ← Text.toList_lowercase, heq]
  rw [CommandLine.parse, if_neg hshort, tokens_strip, htokens]

/-- A call of help is read as such, whichever way it is submitted. -/
theorem parse_helpLine (typed argument : String) :
    CommandLine.parse (helpLine typed argument) = ⟨"help", tokens argument⟩ := by
  have hline : CommandLine.parse (Text.strip ("help " ++ argument)) =
      ⟨"help", tokens argument⟩ := by
    have hword : ∀ c ∈ "help".toList, isWordChar c = true := List.all_eq_true.mp (by decide)
    have hchars : ("help " ++ argument).toList = "help".toList ++ ' ' :: argument.toList := by
      simp
    have hspace : ∀ c ∈ (' ' :: argument.toList).head?, isWordChar c = false := by
      rintro c ⟨⟩
      decide
    have htokens : tokens (Text.strip ("help " ++ argument)) = "help" :: tokens argument := by
      rw [tokens_strip, tokens, hchars, tokensOf_run (by decide) hword hspace,
        tokensOf_blank (by decide)]
      rfl
    have hlower : Text.lowercase "help" = "help" := by decide
    have hmem : 'h' ∈ (Text.strip ("help " ++ argument)).toList := by
      rw [Text.toList_strip]
      exact Text.mem_trim_of_mem (by simp) (by decide)
    have hparse := CommandLine.parse_of_tokens htokens hmem (by decide) (by decide) (by decide)
      (by decide)
    rwa [hlower] at hparse
  rw [helpLine]
  split
  · next hsame =>
      -- the reader does not look at blanks around a line
      rw [← hline, CommandLine.parse, CommandLine.parse, hsame, Text.strip_strip]
  · exact hline

/-! ### What a line can ask for -/

/-- A blank line asks for nothing. Any other is handed on, in other words only if it then is a call
of `help`, or it is for the shell. -/
theorem request_cases (line : String) :
    (Text.isBlankText line = true ∧ request line = .nothing) ∨
      (Text.isBlankText line = false ∧
        ((∃ handed, request line = .submit handed ∧
            (handed = line ∨ ∃ args, CommandLine.parse handed = ⟨"help", args⟩)) ∨
          request line = .refresh ∨ ∃ atEnd, request line = .leave atEnd)) := by
  by_cases hnil : Text.trim line.toList = []
  · refine .inl ⟨Text.isBlankText_iff.mpr hnil, ?_⟩
    simp [request, hnil]
  · refine .inr ⟨Bool.not_eq_true _ ▸ mt Text.isBlankText_iff.mp hnil, ?_⟩
    rw [request_of_ne_nil hnil]
    generalize String.ofList (splitCommand (Text.trim line.toList)).1 = word
    generalize String.ofList (splitCommand (Text.trim line.toList)).2.1 = argument
    unfold requestOf
    split
    · exact .inl ⟨_, rfl, .inr ⟨_, parse_helpLine line argument⟩⟩
    · exact .inr (.inl rfl)
    · exact .inr (.inr ⟨_, rfl⟩)
    · exact .inr (.inr ⟨_, rfl⟩)
    · exact .inr (.inr ⟨_, rfl⟩)
    · exact .inl ⟨line, rfl, .inl rfl⟩

/-! ### Lines that are submitted -/

/-- The word that the shell finds in front of a line. -/
def frontWord (line : String) : String :=
  String.ofList ((Text.trim line.toList).takeWhile isShellChar)

section Front

variable {line : String} (hmark : (Text.trim line.toList).head? ≠ some '?')

include hmark

/-- **The first word of a line with a word of the shell in front**, for the reader, is that word
with what goes on behind it. -/
theorem exists_parse_eq (hown : frontWord line ∈ ownWords) :
    ∃ more rest, (Text.trim line.toList).dropWhile isShellChar = more ++ rest ∧
      (Mimics line ↔ more ≠ []) ∧
      CommandLine.parse line =
        ⟨Text.lowercase (String.ofList ((frontWord line).toList ++ more)),
          (tokensOf rest).map String.ofList⟩ := by
  have hne : (Text.trim line.toList).takeWhile isShellChar ≠ [] := by
    intro hnil
    rw [frontWord, hnil] at hown
    exact absurd hown (by decide)
  obtain ⟨more, rest, hdrop, htokensOf⟩ := exists_tokens_eq hne
  have htokens : tokens line = String.ofList ((frontWord line).toList ++ more) ::
      (tokensOf rest).map String.ofList := by
    rw [← tokens_strip, tokens, Text.toList_strip, htokensOf, List.map_cons, frontWord,
      String.toList_ofList]
  have hfront : Text.trim line.toList = (frontWord line).toList ++ (more ++ rest) := by
    rw [← hdrop, frontWord, String.toList_ofList, List.takeWhile_append_dropWhile]
  refine ⟨more, rest, hdrop, ?_, parse_of_ownWord hown hfront htokens⟩
  have hword : String.ofList (splitCommand (Text.trim line.toList)).1 = frontWord line := by
    rw [splitCommand_of_head? hmark, frontWord]
  rw [Mimics, hword, htokens, List.head?_cons, ne_eq, Option.some.injEq, ← String.toList_inj,
    String.toList_ofList, List.append_right_eq_self]
  exact ⟨fun h => h.2, fun h => ⟨hown, h⟩⟩

variable (hblank : Text.isBlankText line = false)

include hblank

/-- What a line asks for, by the word in front. -/
theorem request_eq :
    request line = requestOf line (frontWord line)
      (String.ofList (Text.trim ((Text.trim line.toList).dropWhile isShellChar))) := by
  have hne : Text.trim line.toList ≠ [] := by
    rw [ne_eq, ← Text.isBlankText_iff, hblank]
    exact Bool.false_ne_true
  rw [request_of_ne_nil hne, splitCommand_of_head? hmark, frontWord]

/-- **A line that mimics nothing and is not for the shell is submitted**, as a line that is read in
the same way. -/
theorem exists_request_eq_submit (hname : (CommandLine.parse line).command ∉
      ["refresh", "exit", "quit", "eof"]) (hgenuine : ¬Mimics line) :
    ∃ handed, request line = .submit handed ∧
      CommandLine.parse handed = CommandLine.parse line := by
  rw [request_eq hmark hblank]
  by_cases hown : frontWord line ∈ ownWords
  · obtain ⟨more, rest, hdrop, hmimics, hparse⟩ := exists_parse_eq hmark hown
    have hmore : more = [] := by
      rw [hmimics, not_ne_iff] at hgenuine
      exact hgenuine
    subst hmore
    rw [List.append_nil, String.ofList_toList] at hparse
    rw [hparse] at hname ⊢
    rw [hdrop, List.nil_append]
    -- with any other word of its own in front, the line would be for the shell
    have hhelp : frontWord line = "help" := by
      by_contra hother
      exact hname (lowercase_mem_of_mem_ownWords _ hown hother)
    rw [hhelp]
    refine ⟨_, rfl, ?_⟩
    rw [parse_helpLine, tokens, String.toList_ofList, tokensOf_trim]
    rfl
  · exact ⟨line, requestOf_of_notMem hown line _, rfl⟩

end Front

end VitaeShell.Shell
