import VitaeShell.Proofs.Command.Run

/-!
# The built-in commands and the front end

A front end has nothing but the output string to tell a payload, a message and the signal for an
empty screen from each other. It never takes one for another: what a command shows comes back as the
same payload (`Shows.read_encode`), and what it tells comes back as the same text, whatever text
from the user, the files or the clipboard stands in it.

The files have to be legible (`Entries.Legible`), as the number of a line in a search result is a
numeral, and the reader takes numerals up to a certain length only.

## Main results

* `mem_searchFiles_iff`: a search finds the lines of the files in which the keyword occurs.
* `Shows.read_encode`: a payload that is shown is read back.
* `read_run`: the output for a line is the signal, a payload or a message, and it is read as that.
-/

namespace VitaeShell.Builtin

/-! ### What a search finds -/

/-- The matches in a text are the lines in which the keyword occurs, numbered from one. -/
theorem mem_matchesIn_iff {keyword content : String} {path : Path} {found : GrepMatch} :
    found ∈ matchesIn keyword path content ↔
      ∃ (i : Nat) (line : String), (Text.lines content)[i]? = some line ∧
        Text.occursIn keyword.toList (Text.lower line.toList) = true ∧
        found = ⟨.text (String.intercalate "/" path), i + 1, .text line, .text keyword⟩ := by
  simp only [matchesIn, List.mem_filterMap, List.mem_zipIdx_iff_getElem?]
  constructor
  · rintro ⟨⟨line, i⟩, hline, hfound⟩
    simp only at hfound
    split at hfound
    · next hoccurs => exact ⟨i, line, hline, hoccurs, (Option.some.inj hfound).symm⟩
    · cases hfound
  · rintro ⟨i, line, hline, hoccurs, rfl⟩
    exact ⟨(line, i), hline, if_pos hoccurs⟩

/-- The matches in files are the matches in their texts. -/
theorem mem_searchFiles_iff {keyword : String} {files : List (Path × Json)}
    {all : List GrepMatch} (h : searchFiles keyword files = .ok all) {found : GrepMatch} :
    found ∈ all ↔
      ∃ path content, (path, .text content) ∈ files ∧ found ∈ matchesIn keyword path content := by
  induction files generalizing all with
  | nil =>
      cases h
      simp
  | cons file rest ih =>
      obtain ⟨path, content⟩ := file
      cases content with
      | text content =>
          rw [searchFiles] at h
          split at h
          · next others hothers =>
              cases h
              rw [List.mem_append, ih hothers]
              constructor
              · rintro (hfound | ⟨other, text, hmem, hfound⟩)
                · exact ⟨path, content, by simp, hfound⟩
                · exact ⟨other, text, .tail _ hmem, hfound⟩
              · rintro ⟨other, text, hmem, hfound⟩
                rcases List.mem_cons.mp hmem with heq | hmem
                · cases heq
                  exact .inl hfound
                · exact .inr ⟨other, text, hmem, hfound⟩
          · cases h
      | null | bool _ | int _ | float _ | list _ | object _ => cases h

/-! ### Payloads that are shown -/

/-- What is kept between bounds is not below the lower one. -/
theorem le_clamp {low high n : Int} : low ≤ clamp low high n := by
  simp only [clamp]
  omega

/-- Nor is it above the upper one, if the bounds are in order. -/
theorem clamp_le {low high n : Int} (h : low ≤ high) : clamp low high n ≤ high := by
  simp only [clamp]
  omega

/-- A matrix is between four and thirty-two rows high and between eight and sixty-four columns wide,
whatever is asked for. -/
theorem exists_matrixOf_eq (args : List String) :
    ∃ rows columns, matrixOf args = .matrix rows columns ∧
      4 ≤ rows ∧ rows ≤ 32 ∧ 8 ≤ columns ∧ columns ≤ 64 := by
  unfold matrixOf
  split
  · split
    · exact ⟨_, _, rfl, le_clamp, clamp_le (by decide), le_clamp, clamp_le (by decide)⟩
    · exact ⟨_, _, rfl, by decide, by decide, by decide, by decide⟩
  · exact ⟨_, _, rfl, by decide, by decide, by decide, by decide⟩

/-- The numbers of the lines of a legible text are readable. -/
theorem wellTyped_of_searchFiles {keyword : String} {files : List (Path × Json)}
    {found : List GrepMatch} (h : searchFiles keyword files = .ok found)
    (hfiles : ∀ file ∈ files, ∃ content, file.2 = .text content ∧
      Json.IsReadable (Text.lines content).length) : (Payload.grep found).WellTyped := by
  intro line hline
  obtain ⟨path, content, hfile, hline⟩ := (mem_searchFiles_iff h).mp hline
  obtain ⟨text, htext, hlength⟩ := hfiles (path, .text content) hfile
  obtain rfl : content = text := by simpa using htext
  obtain ⟨i, words, hwords, -, rfl⟩ := mem_matchesIn_iff.mp hline
  obtain ⟨hi, -⟩ := List.getElem?_eq_some_iff.mp hwords
  have hnumber : Json.IsReadable ((i : Int) + 1) := hlength.of_natAbs_le (by omega)
  exact ⟨_, _, _, _, rfl, hnumber⟩

/-- What is shown of legible files has fields of the right sorts. -/
theorem Shows.wellTyped {fs : FileSystem} {b : Builtin} {args : List String} {payload : Payload}
    (h : Shows fs b args payload) (hfs : fs.root.Legible) : payload.WellTyped := by
  cases h with
  | coffee => exact Json.isReadable_of_lt (k := 5) (by decide) (by decide)
  | matrix =>
      obtain ⟨rows, columns, heq, hrows⟩ := exists_matrixOf_eq args
      rw [heq]
      exact ⟨Json.isReadable_of_lt (k := 2) (by decide) (by omega),
        Json.isReadable_of_lt (k := 2) (by decide) (by omega)⟩
  | ls =>
      intro item hitem
      obtain ⟨⟨name, node⟩, -, rfl⟩ := List.mem_map.mp hitem
      exact ⟨name, _, rfl⟩
  | cat =>
      rw [shownText]
      split <;> trivial
  | grep hhere hfound _ =>
      exact wellTyped_of_searchFiles hfound (FileSystem.legible_here hfs hhere)
  | tree => trivial

/-- No command shows a game, the only payload that can be too deep. -/
theorem Shows.isShallow {fs : FileSystem} {b : Builtin} {args : List String} {payload : Payload}
    (h : Shows fs b args payload) : payload.IsShallow := by
  cases h with
  | matrix =>
      obtain ⟨rows, columns, heq, -⟩ := exists_matrixOf_eq args
      rw [heq]
      trivial
  | cat =>
      rw [shownText]
      split <;> trivial
  | coffee | ls | grep | tree => trivial

/-- **What is shown is read back**, whatever stands in it. -/
theorem Shows.read_encode {fs : FileSystem} {b : Builtin} {args : List String} {payload : Payload}
    (h : Shows fs b args payload) (hfs : fs.root.Legible) :
    Reply.read payload.encode = .ok (.payload payload) :=
  (h.wellTyped hfs).read_encode h.isShallow

/-! ### Messages -/

/-- A text that does not begin like a payload is read as it is. -/
theorem read_eq_plain {text : String} (h : Text.startsWith text payloadOpening = false) :
    Reply.read text = .ok (.plain text) := by
  have hhead : text.toList.head? ≠ some '\x7b' := by
    intro hhead
    obtain ⟨rest, hrest⟩ : ∃ rest, text.toList = '\x7b' :: rest := List.head?_eq_some_iff.mp hhead
    have hstart : Text.startsWith text payloadOpening = true := by
      rw [Text.startsWith_iff, hrest]
      exact List.prefix_append ['\x7b'] rest
    rw [h] at hstart
    cases hstart
  rw [Reply.read, Reply.readWithin, if_pos hhead]

/-- Told texts, and the report of a lost directory, are neither the signal nor a payload. -/
theorem read_of_apart {text opening : String} (hstart : Text.startsWith text opening = true)
    (hsignal : Text.Apart opening clearSignal) (hpayload : Text.Apart opening payloadOpening) :
    text ≠ clearSignal ∧ Reply.read text = .ok (.plain text) :=
  ⟨hsignal.ne hstart (Text.startsWith_self _),
    read_eq_plain (hpayload.startsWith_eq_false hstart)⟩

/-- An answer from legible files is read as what it is. -/
theorem Answers.read {fs : FileSystem} {b : Builtin} {args : List String} {output : String}
    (h : Answers fs b args output) (hfs : fs.root.Legible) :
    (b = clear ∧ output = clearSignal) ∨
      (∃ payload, Shows fs b args payload ∧ output = payload.encode ∧ output ≠ clearSignal ∧
        Reply.read output = .ok (.payload payload)) ∨
      ((∀ payload, ¬Shows fs b args payload) ∧ output ≠ clearSignal ∧
        Reply.read output = .ok (.plain output)) := by
  cases h with
  | cleared => exact .inl ⟨rfl, rfl⟩
  | @shown b args payload hshows =>
      have hsignal : payload.encode ≠ clearSignal :=
        (show Text.Apart payloadOpening clearSignal by decide).ne payload.startsWith_encode
          (Text.startsWith_self _)
      exact .inr (.inl ⟨payload, hshows, rfl, hsignal, hshows.read_encode hfs⟩)
  | told htells hnone =>
      obtain ⟨opening, hopening, hstart⟩ := htells
      have hapart := openings_apart b opening hopening
      exact .inr (.inr ⟨hnone, read_of_apart hstart (hapart clearSignal (by simp))
        (hapart payloadOpening (by simp))⟩)
  | lost _ hnone =>
      exact .inr (.inr ⟨hnone, read_of_apart (Text.startsWith_self _) (by decide) (by decide)⟩)
  | untyped rest hcontent huntyped =>
      obtain ⟨text, htext⟩ := FileSystem.exists_text_of_fileContent hfs.textOnly hcontent
      exact absurd htext (huntyped text)

/-- **An output is never ambiguous.** For every line, the output is the signal for an empty screen,
and then the line says `clear`; or a payload that the command shows, and then a front end reads that
payload; or a message from a command with nothing to show, or about a command that does not exist,
and then a front end reads the message as it is. -/
theorem read_run {fs : FileSystem} (hfs : fs.root.Legible) (clipboard : Clipboard)
    (line : String) :
    let command := CommandLine.parse line
    let output := (registry.run command fs clipboard).answer.output
    (command.command = "clear" ∧ output = clearSignal) ∨
      (∃ b payload, name b = command.command ∧ Shows fs b command.args payload ∧
        output = payload.encode ∧ output ≠ clearSignal ∧
        Reply.read output = .ok (.payload payload)) ∨
      (command.command ≠ "clear" ∧
        (∀ b payload, name b = command.command → ¬Shows fs b command.args payload) ∧
        output ≠ clearSignal ∧ Reply.read output = .ok (.plain output)) := by
  intro command output
  clear_value command
  by_cases hname : ∃ b : Builtin, b.name = command.command
  · obtain ⟨b, hb⟩ := hname
    obtain ⟨answer, hanswer⟩ := exists_action_eq_ok b command.args hfs.textOnly clipboard
    have houtput : output = answer.output := by
      have hrun := run_of_action_eq_ok hanswer
      rw [hb] at hrun
      exact congrArg (·.answer.output) hrun
    by_cases hclear : b = clear
    · subst hclear
      cases hanswer
      exact .inl ⟨hb.symm, houtput⟩
    · rw [houtput]
      rcases (answers_action hanswer).read hfs with ⟨hb', -⟩ | ⟨payload, hshown⟩ | ⟨hnone, hread⟩
      · exact absurd hb' hclear
      · exact .inr (.inl ⟨b, payload, hb, hshown⟩)
      · refine .inr (.inr ⟨fun hcommand => hclear (name_injective (hb.trans hcommand)), ?_, hread⟩)
        rintro other payload hother
        obtain rfl : other = b := name_injective (hother.trans hb.symm)
        exact hnone payload
  · have hne : ∀ b : Builtin, b.name ≠ command.command := by simpa using hname
    have houtput : output = Registry.unknownMessage command.command :=
      congrArg (·.answer.output) (run_of_forall_ne hne fs clipboard)
    rw [houtput]
    refine .inr (.inr ⟨(hne clear).symm, fun b payload hb => absurd hb (hne b), ?_⟩)
    exact read_of_apart (Registry.startsWith_unknownMessage _) (by decide) (by decide)

/-- A text that looks like a payload of another kind. -/
def disguise : String := "\x7b\"type\": \"coffee-output\"\x7d"

/-- A file system with a text in disguise. -/
def disguised : FileSystem :=
  ⟨[("note", .ofText disguise)], []⟩

/-- A file whose text is that of a payload is shown, and read back as a text. -/
theorem read_run_disguised :
    disguised.root.Legible ∧
      Reply.read (registry.run (.parse "cat note") disguised .willing).answer.output =
        .ok (.payload (.text disguise)) := by
  have hlegible : disguised.root.Legible := by
    intro found hfound
    simp only [disguised, Entries.files, Entries.nodeFiles, Node.ofText, List.map_cons,
      List.map_nil, List.append_nil, List.mem_singleton] at hfound
    subst hfound
    have hlines : (Text.lines disguise).length = 1 := by decide
    refine ⟨disguise, rfl, ?_⟩
    rw [hlines]
    exact Json.isReadable_of_lt (k := 1) (by decide) (by decide)
  refine ⟨hlegible, ?_⟩
  have hparse : CommandLine.parse "cat note" = ⟨"cat", ["note"]⟩ := by decide +kernel
  have hfile : disguised.fileContent "note" = .ok (.text disguise) := rfl
  have hshown : shownText disguise = .text disguise := if_neg (by decide)
  rcases read_run hlegible .willing "cat note" with
    ⟨hclear, -⟩ | ⟨b, payload, hb, hshows, -, -, hread⟩ | ⟨-, hnone, -⟩
  · rw [hparse] at hclear
    exact absurd hclear (by decide)
  · rw [hparse] at hb hshows
    obtain rfl : b = cat := name_injective hb
    rcases hshows with _ | _ | _ | ⟨_, hcontent⟩
    rw [hfile] at hcontent
    cases hcontent
    rw [hread, hshown]
  · rw [hparse] at hnone
    exact absurd (.cat [] hfile) (hnone cat _ rfl)

end VitaeShell.Builtin
