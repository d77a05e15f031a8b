import VitaeShell.Command.Builtin
import VitaeShell.Proofs.Fallible
import VitaeShell.Proofs.FileSystem
import VitaeShell.Proofs.Payload.RoundTrip

/-!
# The answers of the built-in commands

Everything that a command has to say goes into one string, and much of it is chosen by the user or
by the files. What kind of answer a string is can still be told by how it begins: a command has a
payload to show (`Builtin.Shows`), or it tells a message with one of a few openings
(`Builtin.Tells`), or it gives one of two fixed texts. No opening of one kind goes on as an opening
of another, whatever follows (`openings_apart`).

## Main results

* `openings_apart`: no message begins like anything else that can be said.
* `answers_action`: each answer of a command is of one of these kinds.
* `Answers.eq_clear`: only `clear` answers with the signal for an empty screen.
* `Answers.ne_of_trouble`: no answer is what the registry says about a command in trouble.
-/

namespace VitaeShell

/-! ### Openings -/

namespace Text

/-- A text starts with another if the characters of the other come first in it. -/
theorem startsWith_iff {s start : String} :
    startsWith s start = true ↔ start.toList <+: s.toList :=
  List.isPrefixOf_iff_prefix

/-- A text begins with what it is put together from first. -/
theorem startsWith_append {s start : String} (h : startsWith s start = true) (rest : String) :
    startsWith (s ++ rest) start = true := by
  rw [startsWith_iff, String.toList_append]
  exact (startsWith_iff.mp h).trans (List.prefix_append _ _)

theorem startsWith_self (s : String) : startsWith s s = true :=
  startsWith_iff.mpr (List.prefix_refl _)

/-- Texts put together with a separator begin with the first of them. -/
theorem startsWith_intercalate {s start : String} (h : startsWith s start = true)
    (separator : String) (rest : List String) :
    startsWith (String.intercalate separator (s :: rest)) start = true := by
  rw [startsWith_iff] at h ⊢
  rw [String.toList_intercalate]
  cases rest with
  | nil => simpa using h
  | cons next rest =>
      rw [List.map_cons, List.map_cons, List.intercalate_cons_cons, List.append_assoc]
      exact h.trans (List.prefix_append _ _)

/-- Openings that no text has at the same time. -/
def Apart (a b : String) : Prop :=
  startsWith a b = false ∧ startsWith b a = false

instance (a b : String) : Decidable (Apart a b) :=
  inferInstanceAs (Decidable (_ ∧ _))

/-- A text with one of two openings apart does not have the other. -/
theorem Apart.startsWith_eq_false {a b s : String} (h : Apart a b) (hs : startsWith s a = true) :
    startsWith s b = false := by
  rw [← Bool.not_eq_true]
  intro hsb
  rcases List.prefix_or_prefix_of_prefix (startsWith_iff.mp hs) (startsWith_iff.mp hsb) with
    hab | hba
  · exact absurd (startsWith_iff.mpr hab) (by simp [h.2])
  · exact absurd (startsWith_iff.mpr hba) (by simp [h.1])

/-- Texts with openings apart are different. -/
theorem Apart.ne {a b s t : String} (h : Apart a b) (hs : startsWith s a = true)
    (ht : startsWith t b = true) : s ≠ t := by
  rintro rfl
  rw [h.startsWith_eq_false hs] at ht
  cases ht

end Text

/-- The opening of every payload. -/
def payloadOpening : String := "\x7b"

/-- The opening of what a registry says about unknown and failing commands. -/
def troubleOpening : String := "Error: '"

/-- An object is written with its brace first. -/
theorem Json.startsWith_encode_object (fields : List (String × Json)) :
    Text.startsWith (Json.object fields).encode payloadOpening = true := by
  rw [Text.startsWith_iff, Json.encode, String.toList_ofList]
  exact List.prefix_append _ _

/-- The text of a payload starts as the texts of payloads do. -/
theorem Payload.startsWith_encode (payload : Payload) :
    Text.startsWith payload.encode payloadOpening = true :=
  Json.startsWith_encode_object _

/-- What is said about a failed command starts as such messages do. -/
theorem Registry.startsWith_failureMessage (name message : String) :
    Text.startsWith (failureMessage name message) troubleOpening = true :=
  Text.startsWith_append (Text.startsWith_append (Text.startsWith_append
    (Text.startsWith_self _) _) _) _

/-- So does what is said about a command that is not known. -/
theorem Registry.startsWith_unknownMessage (name : String) :
    Text.startsWith (unknownMessage name) troubleOpening = true :=
  Text.startsWith_append (Text.startsWith_append (Text.startsWith_self _) _) _

namespace Builtin

/-- How the messages of a command begin. -/
def openings : Builtin → List String
  | help => "Unknown command: " :: all.map fun b => b.name ++ ": "
  | about => ["ResumeTerminal"]
  | cd => ["Changed directory to ", "Directory not found: "]
  | cat => ["Usage: cat", "File not found: "]
  | pwd => ["/"]
  | grep => ["Usage: grep", "No matches found for '"]
  | tree => ["Usage: tree"]
  | copy => ["Usage: copy", "Contact information not found", "Invalid field. ",
      "Field not found: ", "Failed to copy to clipboard: ", "Copied "]
  | coffee | matrix | ls | clear => []

/-- A text is a message of a command if it has one of its openings. -/
def Tells (b : Builtin) (message : String) : Prop :=
  ∃ opening ∈ b.openings, Text.startsWith message opening = true

/-- **No message begins like anything else**: like the signal, a payload, the report of a lost
directory, or the report of a command in trouble. -/
theorem openings_apart (b : Builtin) :
    ∀ opening ∈ b.openings,
      ∀ other ∈ [clearSignal, payloadOpening, PathFault.lost.message, troubleOpening],
        Text.Apart opening other := by
  cases b <;> decide

/-- A message is none of the texts that begin in another way. -/
theorem Tells.ne {b : Builtin} {message other text : String} (h : b.Tells message)
    (hother : other ∈ [clearSignal, payloadOpening, PathFault.lost.message, troubleOpening])
    (htext : Text.startsWith text other = true) : message ≠ text := by
  obtain ⟨opening, hopening, hstart⟩ := h
  exact (openings_apart b opening hopening other hother).ne hstart htext

/-! ### Kinds of answers -/

/-- The payload that a command **shows** for its arguments in a file system. A search shows what it
found only if that is something. -/
inductive Shows (fs : FileSystem) : Builtin → List String → Payload → Prop
  | coffee (args : List String) : Shows fs coffee args (.coffee Payload.defaultDuration)
  | matrix (args : List String) : Shows fs matrix args (matrixOf args)
  | ls (args : List String) {entries : Entries} :
      fs.here? = some entries →
      Shows fs ls args (.grid (entries.map fun entry => gridItem entry.1 entry.2))
  | cat {name content : String} (rest : List String) :
      fs.fileContent name = .ok (.text content) →
      Shows fs cat (name :: rest) (shownText content)
  | grep {word : String} {entries : Entries} {found : List GrepMatch} :
      fs.here? = some entries →
      searchFiles (Text.lowercase word) (Entries.files entries) = .ok found → found ≠ [] →
      Shows fs grep [word] (.grep found)
  | tree {entries : Entries} :
      fs.here? = some entries →
      Shows fs tree [] (.text (String.intercalate "\n"
        (Path.format fs.cwd :: Entries.draw "" entries)))

/-- The kinds of outputs with which a command **answers**. Anything but a text that stands in a file
is wrapped like a text, though it is none. -/
inductive Answers (fs : FileSystem) : Builtin → List String → String → Prop
  | cleared (args : List String) : Answers fs clear args clearSignal
  | shown {b : Builtin} {args : List String} {payload : Payload} :
      Shows fs b args payload → Answers fs b args payload.encode
  | told {b : Builtin} {args : List String} {message : String} :
      b.Tells message → (∀ payload, ¬Shows fs b args payload) → Answers fs b args message
  | lost {b : Builtin} {args : List String} :
      fs.here? = none → (∀ payload, ¬Shows fs b args payload) →
      Answers fs b args PathFault.lost.message
  | untyped {name : String} {content : Json} (rest : List String) :
      fs.fileContent name = .ok content → (∀ text, content ≠ .text text) →
      Answers fs cat (name :: rest)
        (Json.object [("type", .text "text-output"), ("content", content)]).encode

/-! ### What each command answers -/

/-- A command of any name can be told about. -/
theorem mem_openings_help (b : Builtin) : b.name ++ ": " ∈ help.openings := by
  refine List.mem_cons_of_mem _ (List.mem_map.mpr ⟨b, ?_, rfl⟩)
  cases b <;> decide

/-- Help for one command or for all of them is an answer that `help` may give. -/
theorem tells_runHelp (args : List String) : help.Tells (runHelp args) := by
  cases args with
  | nil =>
      exact ⟨help.name ++ ": ", mem_openings_help help,
        Text.startsWith_intercalate (Text.startsWith_append (Text.startsWith_self _) _) _ _⟩
  | cons name rest =>
      rw [runHelp, helpOn]
      split
      · next b hfind =>
          have hname : b.name = name := by simpa using List.find?_some hfind
          subst hname
          refine ⟨b.name ++ ": ", mem_openings_help b, ?_⟩
          exact Text.startsWith_append (Text.startsWith_append (Text.startsWith_append
            (Text.startsWith_self _) _) _) _
      · exact ⟨"Unknown command: ", by decide,
          Text.startsWith_append (Text.startsWith_self _) _⟩

/-- The text about the program is an answer that `about` may give. -/
theorem tells_aboutText : about.Tells aboutText :=
  ⟨"ResumeTerminal", by decide, Text.startsWith_append (by decide) _⟩

/-- A change of directory answers nothing, or that there is no such directory. -/
theorem tells_runCd (args : List String) (fs : FileSystem) : cd.Tells (runCd args fs).output := by
  rw [runCd]
  split
  · exact ⟨"Changed directory to ", by decide, Text.startsWith_append (Text.startsWith_self _) _⟩
  · next fault hfault =>
      rw [FileSystem.enter_eq_error hfault]
      exact ⟨"Directory not found: ", by decide, Text.startsWith_append (Text.startsWith_self _) _⟩

/-- The path of a directory is an answer that `pwd` may give. -/
theorem tells_format (path : Path) : pwd.Tells (Path.format path) :=
  ⟨"/", by decide, Text.startsWith_append (Text.startsWith_self _) _⟩

/-- Whatever `findContact` finds missing is told. -/
theorem tells_of_findContact {field message : String} {fs : FileSystem}
    (h : findContact field fs = .error message) : copy.Tells message := by
  rw [findContact] at h
  split at h
  · cases h
    exact ⟨"Contact information not found", by decide, Text.startsWith_self _⟩
  · split at h
    · cases h
      exact ⟨"Invalid field. ", by decide, by decide +kernel⟩
    · split at h
      · split at h
        · cases h
          exact ⟨"Field not found: ", by decide, Text.startsWith_append (Text.startsWith_self _) _⟩
        · cases h
      · cases h
        exact ⟨"Field not found: ", by decide, Text.startsWith_append (Text.startsWith_self _) _⟩

/-- Copying answers what it took over, or what is wrong with what was asked for. -/
theorem tells_runCopy (args : List String) (fs : FileSystem) (clipboard : Clipboard) :
    copy.Tells (runCopy args fs clipboard).1 := by
  have husage : copy.Tells
      "Usage: copy <field> (where field is email, phone, website, linkedin, or github)" :=
    ⟨"Usage: copy", by decide, by decide +kernel⟩
  rcases args with _ | ⟨word, _ | ⟨other, rest⟩⟩
  · exact husage
  · simp only [runCopy]
    split
    · next hmessage => exact tells_of_findContact hmessage
    · simp only
      split
      · exact ⟨"Failed to copy to clipboard: ", by decide,
          Text.startsWith_append (Text.startsWith_self _) _⟩
      · exact ⟨"Copied ", by decide,
          Text.startsWith_append (Text.startsWith_append (Text.startsWith_self _) _) _⟩
  · exact husage

/-- What `ls` gives is one of its answers, or the message of a lost directory. -/
theorem answers_runLs (args : List String) (fs : FileSystem) : Answers fs ls args (runLs fs) := by
  rw [runLs]
  rcases hhere : fs.here? with _ | entries
  · rw [FileSystem.here_of_here?_eq_none hhere]
    refine .lost hhere ?_
    rintro payload ⟨⟩
    simp_all
  · rw [FileSystem.here_eq_ok_iff.mpr hhere]
    exact .shown (.ls args hhere)

/-- So is what `tree` gives. -/
theorem answers_runTree (args : List String) (fs : FileSystem) :
    Answers fs tree args (runTree args fs) := by
  rw [runTree]
  cases args with
  | cons arg rest =>
      refine .told ⟨"Usage: tree", by decide, Text.startsWith_self _⟩ ?_
      rintro payload ⟨⟩
  | nil =>
      rcases hhere : fs.here? with _ | entries
      · rw [FileSystem.here_of_here?_eq_none hhere]
        refine .lost hhere ?_
        rintro payload ⟨⟩
        simp_all
      · rw [FileSystem.here_eq_ok_iff.mpr hhere]
        exact .shown (.tree hhere)

/-- Text is shown as a payload; anything else that is shown is wrapped like a text. -/
theorem answers_showContent {fs : FileSystem} {name output : String} {content : Json}
    (rest : List String) (hcontent : fs.fileContent name = .ok content)
    (h : showContent content = .ok output) : Answers fs cat (name :: rest) output := by
  cases content with
  | text content =>
      cases h
      exact .shown (.cat rest hcontent)
  | list items =>
      rw [showContent] at h
      split at h
      · cases h
      · cases h
        exact .untyped rest hcontent (by simp)
  | object fields =>
      rw [showContent] at h
      split at h
      · cases h
      · cases h
        exact .untyped rest hcontent (by simp)
  | null | bool _ | int _ | float _ => cases h

/-- What `cat` gives, if it gives anything, is one of its answers, or that message. -/
theorem answers_runCat {args : List String} {fs : FileSystem} {output : String}
    (h : runCat args fs = .ok output) : Answers fs cat args output := by
  cases args with
  | nil =>
      cases h
      refine .told ⟨"Usage: cat", by decide, by decide⟩ ?_
      rintro payload ⟨⟩
  | cons name rest =>
      rw [runCat] at h
      split at h
      · next content hcontent => exact answers_showContent rest hcontent h
      · next fault hfault =>
          cases h
          have hnone : ∀ payload, ¬Shows fs cat (name :: rest) payload := by
            rintro payload ⟨⟩
            simp_all
          rcases FileSystem.fileContent_eq_error hfault with ⟨hhere, rfl⟩ | rfl
          · exact .lost hhere hnone
          · exact .told ⟨"File not found: ", by decide,
              Text.startsWith_append (Text.startsWith_self _) _⟩ hnone

/-- So is what `grep` gives. -/
theorem answers_runGrep {args : List String} {fs : FileSystem} {output : String}
    (h : runGrep args fs = .ok output) : Answers fs grep args output := by
  have husage (hmany : ∀ word, args ≠ [word]) : Answers fs grep args "Usage: grep <keyword>" := by
    refine .told ⟨"Usage: grep", by decide, by decide⟩ ?_
    rintro payload ⟨⟩
    exact hmany _ rfl
  rcases args with _ | ⟨word, _ | ⟨other, rest⟩⟩
  · cases h
    exact husage (by simp)
  · simp only [runGrep] at h
    rcases hhere : fs.here? with _ | entries
    · rw [FileSystem.here_of_here?_eq_none hhere] at h
      cases h
      refine .lost hhere ?_
      rintro payload ⟨⟩
      simp_all
    · rw [FileSystem.here_eq_ok_iff.mpr hhere] at h
      simp only at h
      split at h
      · cases h
      · next hfound =>
          cases h
          refine .told ⟨"No matches found for '", by decide,
            Text.startsWith_append (Text.startsWith_append (Text.startsWith_self _) _) _⟩ ?_
          rintro payload ⟨⟩
          simp_all
      · next found hne hfound =>
          cases h
          exact .shown (.grep hhere hfound (by simpa using hne))
  · cases h
    exact husage (by simp)

/-- **Each answer is of one kind.** The kinds of the twelve commands, whatever the arguments, the
files and the clipboard are. -/
theorem answers_action {b : Builtin} {args : List String} {fs : FileSystem} {clipboard : Clipboard}
    {answer : Answer} (h : (b.action args fs clipboard).1 = .ok answer) :
    Answers fs b args answer.output := by
  cases b with
  | coffee => cases h; exact .shown (.coffee args)
  | help => cases h; exact .told (tells_runHelp args) (by rintro payload ⟨⟩)
  | about => cases h; exact .told tells_aboutText (by rintro payload ⟨⟩)
  | matrix => cases h; exact .shown (.matrix args)
  | cd => cases h; exact .told (tells_runCd args fs) (by rintro payload ⟨⟩)
  | ls => cases h; exact answers_runLs args fs
  | cat =>
      rw [action] at h
      obtain ⟨output, houtput, rfl⟩ := exists_of_map_eq_ok h
      exact answers_runCat houtput
  | clear => cases h; exact .cleared args
  | pwd => cases h; exact .told (tells_format fs.cwd) (by rintro payload ⟨⟩)
  | grep =>
      rw [action] at h
      obtain ⟨output, houtput, rfl⟩ := exists_of_map_eq_ok h
      exact answers_runGrep houtput
  | tree => cases h; exact answers_runTree args fs
  | copy => cases h; exact .told (tells_runCopy args fs clipboard) (by rintro payload ⟨⟩)

/-- How an answer can begin. -/
theorem Answers.exists_opening {fs : FileSystem} {b : Builtin} {args : List String}
    {output : String} (h : Answers fs b args output) :
    ∃ opening ∈ clearSignal :: payloadOpening :: PathFault.lost.message :: b.openings,
      Text.startsWith output opening = true := by
  cases h with
  | cleared => exact ⟨clearSignal, by simp, Text.startsWith_self _⟩
  | shown => exact ⟨payloadOpening, by simp, Payload.startsWith_encode _⟩
  | told htells =>
      obtain ⟨opening, hopening, hstart⟩ := htells
      exact ⟨opening, by simp [hopening], hstart⟩
  | lost => exact ⟨PathFault.lost.message, by simp, Text.startsWith_self _⟩
  | untyped => exact ⟨payloadOpening, by simp, Json.startsWith_encode_object _⟩

/-- Only `clear` answers with the signal for an empty screen. -/
theorem Answers.eq_clear {fs : FileSystem} {b : Builtin} {args : List String} {output : String}
    (h : Answers fs b args output) (houtput : output = clearSignal) : b = clear := by
  cases h with
  | cleared => rfl
  | shown =>
      have hapart : Text.Apart payloadOpening clearSignal := by decide
      exact absurd houtput (hapart.ne (Payload.startsWith_encode _) (Text.startsWith_self _))
  | told htells => exact absurd houtput (htells.ne (by simp) (Text.startsWith_self _))
  | lost => exact absurd houtput (by decide)
  | untyped =>
      have hapart : Text.Apart payloadOpening clearSignal := by decide
      exact absurd houtput (hapart.ne (Json.startsWith_encode_object _) (Text.startsWith_self _))

/-- An answer is never what the registry says about a command in trouble. -/
theorem Answers.ne_of_trouble {fs : FileSystem} {b : Builtin} {args : List String}
    {output text : String} (h : Answers fs b args output)
    (htext : Text.startsWith text troubleOpening = true) : output ≠ text := by
  obtain ⟨opening, hopening, hstart⟩ := h.exists_opening
  have hapart : Text.Apart opening troubleOpening := by
    simp only [List.mem_cons] at hopening
    rcases hopening with rfl | rfl | rfl | hopening
    · decide
    · decide
    · decide
    · exact openings_apart b opening hopening troubleOpening (by simp)
  exact hapart.ne hstart htext

end Builtin

end VitaeShell
