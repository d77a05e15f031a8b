import VitaeShell.Proofs.Command.Copying
import VitaeShell.Proofs.Session.Residence
import VitaeShell.Proofs.Session.Trace
import VitaeShell.Resume.Sample

/-!
# What the clipboard is offered

The clipboard lies outside of a session and is reached by `copy` alone. What it has been offered
after any operations can be read off the trace (`Event.copying?`): one text for each submitted line
that copies a contact field of the résumé, in the order of the lines, and nothing else. A refusal
shows in the answer to the line, and nowhere else.

## Main results

* `Offers.submitLine`, `Offers.step`: a line, and so an operation, offers what its events copy.
* `offered_after`: what the clipboard has been offered after a run, and what was answered.
-/

namespace VitaeShell.Session

/-- A contact field that was copied, with what was answered. -/
structure Copying where
  field : String
  value : String
  output : String
deriving DecidableEq, Repr

/-- What is copied when something happens. -/
def Event.copying? (contact : Contact) : Event → Option Copying
  | submitted line output =>
    (CommandLine.copied? contact (.parse line)).map fun (field, value) => ⟨field, value, output⟩
  | interrupted _ | cleared | refreshed => none

/-- What is copied in the course of events. -/
def copyings (contact : Contact) (events : List Event) : List Copying :=
  events.filterMap (Event.copying? contact)

/-- The events since a clipboard was as it was `before` have **offered** it what they copy, and each
answer tells whether the clipboard took it. -/
structure Offers (contact : Contact) (before : Clipboard) (events : List Event)
    (clipboard : Clipboard) : Prop where
  clipboard_eq : clipboard =
    { before with offered := before.offered ++ (copyings contact events).map Copying.value }
  answered : ∀ entry ∈ (copyings contact events).zipIdx before.offered.length,
    entry.1.output = "Copied " ++ entry.1.field ++ " to clipboard" ↔
      before.refusal entry.2 entry.1.value = none

section

variable {resume : Resume} {setting : Setting} {before clipboard : Clipboard}
  {events : List Event} {s : Session}

/-- Where nothing happens, nothing is copied. -/
theorem offers_nil (contact : Contact) (clipboard : Clipboard) :
    Offers contact clipboard [] clipboard where
  clipboard_eq := by simp [copyings]
  answered := by simp [copyings]

/-- An event that copies nothing offers nothing. -/
theorem Offers.skip {contact : Contact} {event : Event} (h : Offers contact before events clipboard)
    (hevent : event.copying? contact = none) :
    Offers contact before (events ++ [event]) clipboard := by
  have hsame : copyings contact (events ++ [event]) = copyings contact events := by
    simp [copyings, hevent]
  constructor
  · rw [hsame, ← h.clipboard_eq]
  · rw [hsame]
    exact h.answered

/-- What an event copies is offered next. -/
theorem Offers.concat {contact : Contact} {event : Event} {copying : Copying}
    (h : Offers contact before events clipboard) (hevent : event.copying? contact = some copying)
    (hanswer : copying.output = "Copied " ++ copying.field ++ " to clipboard" ↔
      clipboard.response copying.value = none) :
    Offers contact before (events ++ [event]) (clipboard.offer copying.value) := by
  have hmore : copyings contact (events ++ [event]) = copyings contact events ++ [copying] := by
    simp [copyings, hevent]
  constructor
  · rw [hmore, h.clipboard_eq]
    simp [Clipboard.offer]
  · rw [hmore, List.zipIdx_append, List.forall_mem_append]
    refine ⟨h.answered, ?_⟩
    rw [h.clipboard_eq] at hanswer
    simpa [Clipboard.response] using hanswer

/-- **A submitted line offers what it copies**, wherever the session stands. -/
theorem Offers.submitLine (hsetting : setting = ⟨.ofResume resume, Builtin.registry⟩)
    (h : Offers resume.personalInfo.contact before events clipboard)
    (hs : s.Resident setting.document) (line : String) :
    Offers resume.personalInfo.contact before
      (events ++ [.submitted line (s.submitLine setting clipboard line).result])
      (s.submitLine setting clipboard line).clipboard := by
  subst hsetting
  have hroot : s.fs.root = resume.entries := hs.1
  have hoffered := Builtin.clipboard_run hroot (CommandLine.parse line) clipboard
  have hanswer (hname : (CommandLine.parse line).command = "copy") :=
    Builtin.output_run_eq_copied_iff hroot hname clipboard
  rw [submitLine_clipboard, submitLine_result]
  -- how the line is answered does not matter beyond this
  generalize Registry.run _ (CommandLine.parse line) s.fs clipboard = outcome at *
  cases hcopied : (CommandLine.parse line).copied? resume.personalInfo.contact with
  | none =>
      rw [hoffered, hcopied]
      exact h.skip (by rw [Event.copying?, hcopied, Option.map_none])
  | some copied =>
      obtain ⟨field, value⟩ := copied
      have htaken := hanswer (CommandLine.command_of_copied hcopied) field
      simp only [hcopied, Option.some.injEq, Prod.mk.injEq, true_and, exists_eq_left'] at htaken
      have hevent : (Event.submitted line outcome.answer.output).copying?
          resume.personalInfo.contact = some ⟨field, value, outcome.answer.output⟩ := by
        rw [Event.copying?, hcopied, Option.map_some]
      rw [hoffered, hcopied]
      exact h.concat hevent htaken

/-- The lines of a script offer what they copy, one after the other. -/
theorem Offers.runScript (hsetting : setting = ⟨.ofResume resume, Builtin.registry⟩)
    (h : Offers resume.personalInfo.contact before events clipboard)
    (hs : s.Resident setting.document) (lines : List String) :
    Offers resume.personalInfo.contact before
      (events ++
        (runnableLines lines).zipWith .submitted (s.runScript setting clipboard lines).result)
      (s.runScript setting clipboard lines).clipboard := by
  induction lines generalizing events s clipboard with
  | nil => simpa [runnableLines, Session.runScript] using h
  | cons raw lines ih =>
      rw [Session.runScript, runnableLines, List.map_cons]
      by_cases hrunnable : isRunnable (scriptLine raw) = true
      · have hs' : (s.submitLine setting clipboard (scriptLine raw)).session.Resident
            setting.document := by
          subst hsetting
          exact (resident_submitLine hs clipboard (scriptLine raw)).1
        have hrest := ih (h.submitLine hsetting hs (scriptLine raw)) hs'
        rw [List.append_assoc] at hrest
        rw [if_neg (by simp [hrunnable]), List.filter_cons_of_pos hrunnable]
        exact hrest
      · rw [if_pos (by simp [hrunnable]), List.filter_cons_of_neg hrunnable]
        exact ih h hs

/-- What a key does offers nothing. -/
theorem Offers.press {contact : Contact} (h : Offers contact before events clipboard)
    (input : String) (key : Key) :
    Offers contact before (events ++ keyEvents input key) clipboard := by
  cases key with
  | interrupt | clearScreen => exact h.skip rfl
  | tab | arrowUp | arrowDown | character | backspace =>
      rw [keyEvents, List.append_nil]
      exact h

/-- **Every operation offers what its events copy.** -/
theorem Offers.step (hsetting : setting = ⟨.ofResume resume, Builtin.registry⟩)
    (h : Offers resume.personalInfo.contact before events clipboard)
    (hs : s.Resident setting.document) (op : Op) :
    Offers resume.personalInfo.contact before
      (events ++ op.events s.input (s.step setting clipboard op).result)
      (s.step setting clipboard op).clipboard := by
  cases op with
  | submit line => exact h.submitLine hsetting hs (line.getD s.input)
  | press key character => exact h.press s.input key
  | setInput text =>
      rw [Op.events, List.append_nil]
      exact h
  | refresh => exact h.skip rfl
  | script lines => exact h.runScript hsetting hs lines

/-- So does a whole run, whatever it leaves behind. -/
theorem Offers.after (hsetting : setting = ⟨.ofResume resume, Builtin.registry⟩)
    (h : Offers resume.personalInfo.contact before events clipboard)
    (hs : s.Resident setting.document) (ops : List Op) :
    Offers resume.personalInfo.contact before (events ++ trace setting s clipboard ops)
      (after setting s clipboard ops).2 := by
  induction ops generalizing events s clipboard with
  | nil => simpa [trace, Session.after] using h
  | cons op ops ih =>
      have hs' : (s.step setting clipboard op).session.Resident setting.document := by
        subst hsetting
        exact (resident_step hs clipboard op).1
      rw [trace, Session.after, ← List.append_assoc]
      exact ih (h.step hsetting hs op) hs'

end

/-- A line that names `copy` is answered by it, and moves nowhere. -/
theorem submitLine_copy {setting : Setting} (hregistry : setting.registry = Builtin.registry)
    (s : Session) (clipboard : Clipboard) {line : String}
    (hname : (CommandLine.parse line).command = "copy") :
    let next := s.submitLine setting clipboard line
    let copied := Builtin.runCopy (CommandLine.parse line).args s.fs clipboard
    next.session.fs = s.fs ∧ next.result = copied.1 ∧ next.clipboard = copied.2 := by
  have hrun : Builtin.registry.run (CommandLine.parse line) s.fs clipboard =
      ⟨⟨(Builtin.runCopy (CommandLine.parse line).args s.fs clipboard).1, s.fs⟩,
        (Builtin.runCopy (CommandLine.parse line).args s.fs clipboard).2, []⟩ := by
    generalize CommandLine.parse line = command at hname
    obtain ⟨name, args⟩ := command
    obtain rfl : name = "copy" := hname
    exact Builtin.run_copy args s.fs clipboard
  intro next copied
  refine ⟨?_, ?_, ?_⟩
  · rw [submitLine_fs, hregistry, hrun]
  · rw [submitLine_result, hregistry, hrun]
  · rw [submitLine_clipboard, hregistry, hrun]

/-- **The clipboard is offered the contact fields that are copied, and nothing else.** After a run
on a résumé, the clipboard has been offered one text for each submitted line that names `copy` and
one contact field that is given and not empty, in the order of the lines: the value of the field.
The answer to the line says that the field was copied exactly if the clipboard took the value.
Wherever the session stands, a line that names `copy` is answered in the same way, offers the same,
and leaves the file system as it is. -/
theorem offered_after (resume : Resume) (clipboard : Clipboard) (ops : List Op) :
    let setting : Setting := ⟨.ofResume resume, Builtin.registry⟩
    let copied := copyings resume.personalInfo.contact
      (trace setting (start setting).1 clipboard ops)
    let s := (after setting (start setting).1 clipboard ops).1
    let clipboard' := (after setting (start setting).1 clipboard ops).2
    clipboard' = { clipboard with offered := clipboard.offered ++ copied.map Copying.value } ∧
      (∀ entry ∈ copied.zipIdx clipboard.offered.length,
        entry.1.output = "Copied " ++ entry.1.field ++ " to clipboard" ↔
          clipboard.refusal entry.2 entry.1.value = none) ∧
      ∀ (line : String) (cwd : Path), (CommandLine.parse line).command = "copy" →
        let here := s.submitLine setting clipboard' line
        let there := { s with fs := ⟨s.fs.root, cwd⟩ }.submitLine setting clipboard' line
        here.session.fs = s.fs ∧ there.result = here.result ∧ there.clipboard = here.clipboard := by
  intro setting
  have hsetting : setting = ⟨.ofResume resume, Builtin.registry⟩ := rfl
  clear_value setting
  intro copied s clipboard'
  have hoffers := (offers_nil resume.personalInfo.contact clipboard).after hsetting
    (resident_start setting) ops
  rw [List.nil_append] at hoffers
  refine ⟨hoffers.clipboard_eq, hoffers.answered, fun line cwd hname => ?_⟩
  intro here there
  have hregistry : setting.registry = Builtin.registry := by rw [hsetting]
  obtain ⟨hstays, hsays, hoffers⟩ := submitLine_copy hregistry s clipboard' hname
  obtain ⟨-, hsays', hoffers'⟩ :=
    submitLine_copy hregistry { s with fs := ⟨s.fs.root, cwd⟩ } clipboard' hname
  have hroot : (⟨s.fs.root, cwd⟩ : FileSystem).root = s.fs.root := rfl
  have hsame := Builtin.runCopy_congr hroot (CommandLine.parse line).args clipboard'
  refine ⟨hstays, ?_, ?_⟩
  · rw [hsays', hsays, hsame]
  · rw [hoffers', hoffers, hsame]

/-- A clipboard that refuses its second offer. -/
def balking : Clipboard where
  refusal n _ := if n = 1 then some "not now" else none

/-- Lines that copy, also from a script and from the input, and lines that do not. -/
def copyingThrice : List Op :=
  [.submit (some "copy email"), .submit (some "cd skills"),
    .script ["COPY \"Phone\"", "copy address", "copy"], .setInput " Copy GitHub ", .submit none]

/-- Three lines that copy leave three values, each offered in its turn. -/
theorem offered_after_copyingThrice :
    let setting : Setting := ⟨.ofResume .sample, Builtin.registry⟩
    let s := (after setting (start setting).1 balking copyingThrice).1
    let clipboard := (after setting (start setting).1 balking copyingThrice).2
    (CommandLine.parse "copy website").command = "copy" ∧
      clipboard.offered = ["jordan.rivera@example.com", "+1 555 0100",
        "https://github.com/jordan-rivera"] ∧
      (s.submitLine setting clipboard "copy website").session.fs = s.fs := by
  have hname : (CommandLine.parse "copy website").command = "copy" := by decide +kernel
  have hcopied : copyings Resume.sample.personalInfo.contact
      (trace ⟨.ofResume .sample, Builtin.registry⟩
        (start ⟨.ofResume .sample, Builtin.registry⟩).1 balking copyingThrice) =
        [⟨"email", "jordan.rivera@example.com", "Copied email to clipboard"⟩,
          ⟨"phone", "+1 555 0100", "Failed to copy to clipboard: not now"⟩,
          ⟨"github", "https://github.com/jordan-rivera", "Copied github to clipboard"⟩] := by
    decide +kernel
  obtain ⟨hclipboard, -, hline⟩ := offered_after .sample balking copyingThrice
  rw [hcopied] at hclipboard
  exact ⟨hname, congrArg Clipboard.offered hclipboard, (hline "copy website" [] hname).1⟩

end VitaeShell.Session
