import VitaeShell.Proofs.Command.Run
import VitaeShell.Proofs.Resume.Filing

/-!
# What `copy` does

The command looks up a contact field where the tree of a résumé files it, and offers what it finds
to the clipboard. The contact part of the résumé says beforehand what that will be
(`Contact.copyable?`): the field has to be given, and must not be empty. Neither the current
directory nor any other part of the tree matters.

## Main results

* `findContact_eq`: what is found in the tree of a résumé, in terms of the résumé.
* `clipboard_run`: no line but one that copies reaches the clipboard.
* `run_copy`, `output_run_eq_copied_iff`: what is answered to a line that names `copy`.
-/

namespace VitaeShell

/-- What can be copied of a contact field: its value, if it is given and not empty. -/
def Contact.copyable? (contact : Contact) (field : String) : Option String :=
  (contact.fields.lookup field).join.filter (· ≠ "")

/-- What a line copies: the field that it names, in lowercase, and the value of that field. The line
names `copy` and has one argument, and the field can be copied. -/
def CommandLine.copied? (contact : Contact) (line : CommandLine) : Option (String × String) :=
  match line.args with
  | [word] =>
    if line.command = "copy" then
      (contact.copyable? (Text.lowercase word)).map (Text.lowercase word, ·)
    else none
  | _ => none

/-- Only a line with the command `copy` copies something. -/
theorem CommandLine.command_of_copied {contact : Contact} {line : CommandLine}
    {copied : String × String} (h : line.copied? contact = some copied) :
    line.command = "copy" := by
  rw [copied?] at h
  split at h
  · split at h
    · assumption
    · cases h
  · cases h

namespace Entries

/-- A file of texts holds the text of its name. -/
theorem lookup_texts (sheets : List (String × String)) (name : String) :
    (texts sheets).lookup name = (sheets.lookup name).map Node.ofText := by
  induction sheets with
  | nil => rfl
  | cons sheet sheets ih =>
      obtain ⟨other, content⟩ := sheet
      rw [texts, List.map_cons, ← texts]
      by_cases hname : name = other
      · subst hname
        rw [List.lookup_cons_self, List.lookup_cons_self, Option.map_some]
      · rw [Table.lookup_cons_of_ne hname, Table.lookup_cons_of_ne hname, ih]

end Entries

/-- A field that is given is found under the name of its file, and no other is. -/
theorem lookup_given {fields : List (String × Option String)}
    (h : (fields.map (·.1)).Nodup) (name : String) :
    (fields.filterMap fun field =>
      field.2.map fun value => (field.1 ++ ".txt", value)).lookup (name ++ ".txt") =
        (fields.lookup name).join := by
  induction fields with
  | nil => rfl
  | cons field fields ih =>
      obtain ⟨other, given⟩ := field
      obtain ⟨hother, hfields⟩ := List.nodup_cons.mp h
      rw [List.lookup_cons]
      by_cases hname : name = other
      · subst hname
        cases given with
        | some value => simp
        | none =>
            -- no other field has the name, so none is found further on
            have hlater : fields.lookup name = none := by
              rw [Option.eq_none_iff_forall_ne_some]
              exact fun value hvalue => hother (Table.mem_names_of_lookup hvalue)
            simpa [hlater] using ih hfields
      · have hfile : name ++ ".txt" ≠ other ++ ".txt" := by simpa using hname
        cases given with
        | none => simpa [beq_eq_false_iff_ne.mpr hname] using ih hfields
        | some value =>
            simpa [List.lookup_cons, beq_eq_false_iff_ne.mpr hfile,
              beq_eq_false_iff_ne.mpr hname] using ih hfields

/-- The tree of a résumé holds the contact fields in a directory of their own. -/
theorem Resume.find?_contact (resume : Resume) :
    Entries.find? resume.entries ["personalInfo", "contact"] =
      some (Entries.texts resume.personalInfo.contact.sheets) := by
  rw [entries_eq]
  rfl

namespace Builtin

variable {resume : Resume} {fs : FileSystem}

/-! ### Looking a field up -/

/-- **What is found in the tree of a résumé** is what the résumé has to copy, wherever one is. -/
theorem findContact_eq (hfs : fs.root = resume.entries) (field : String) :
    findContact field fs =
      match resume.personalInfo.contact.copyable? field with
      | some value => .ok value
      | none => .error (if contactFields.contains field then "Field not found: " ++ field
          else "Invalid field. Available fields: " ++ String.intercalate ", " contactFields) := by
  have hgiven : (Entries.texts resume.personalInfo.contact.sheets).lookup (field ++ ".txt") =
      (resume.personalInfo.contact.fields.lookup field).join.map Node.ofText := by
    have hnodup : (resume.personalInfo.contact.fields.map (·.1)).Nodup := by
      show ["email", "phone", "website", "linkedin", "github"].Nodup
      decide
    rw [Entries.lookup_texts, ← lookup_given hnodup]
    rfl
  have hknown : field ∉ contactFields →
      (resume.personalInfo.contact.fields.lookup field).join = none := by
    intro hfield
    rw [Option.eq_none_iff_forall_ne_some]
    exact fun value hvalue =>
      hfield (Table.mem_names_of_lookup (Option.join_eq_some_iff.mp hvalue))
  rw [findContact, hfs, resume.find?_contact, Contact.copyable?]
  simp only [hgiven, List.contains_iff_mem, Bool.not_eq_true']
  by_cases hfield : field ∈ contactFields
  · cases (resume.personalInfo.contact.fields.lookup field).join with
    | none => simp [hfield]
    | some value =>
        by_cases hvalue : value = ""
        · simp [hfield, hvalue, Node.ofText, Option.filter]
        · simp [hfield, hvalue, Node.ofText, Option.filter]
  · simp [hfield, hknown hfield]

/-! ### Copying -/

/-- What `copy` does depends on the tree, and not on the current directory. -/
theorem runCopy_congr {other : FileSystem} (h : other.root = fs.root) (args : List String)
    (clipboard : Clipboard) : runCopy args other clipboard = runCopy args fs clipboard := by
  simp only [runCopy, findContact, h]

/-- A field that can be copied is offered, and the answer says what came of it. -/
theorem runCopy_of_copied {args : List String} {field value : String}
    (hfs : fs.root = resume.entries)
    (h : CommandLine.copied? resume.personalInfo.contact ⟨"copy", args⟩ = some (field, value))
    (clipboard : Clipboard) :
    (runCopy args fs clipboard).2 = clipboard.offer value ∧
      ∀ name, (runCopy args fs clipboard).1 = "Copied " ++ name ++ " to clipboard" ↔
        name = field ∧ clipboard.response value = none := by
  rcases args with _ | ⟨word, _ | ⟨next, rest⟩⟩
  · cases h
  · simp only [CommandLine.copied?, if_pos, Option.map_eq_some_iff, Prod.mk.injEq] at h
    obtain ⟨found, hfound, rfl, rfl⟩ := h
    simp only [runCopy, findContact_eq hfs, hfound, true_and]
    intro name
    cases hresponse : clipboard.response found with
    | none => simp [eq_comm]
    | some words =>
        have hapart : Text.Apart "Failed to copy to clipboard: " "Copied " := by decide
        refine iff_of_false (hapart.ne (Text.startsWith_append (Text.startsWith_self _) _) ?_)
          (by simp)
        exact Text.startsWith_append (Text.startsWith_append (Text.startsWith_self _) _) _
  · cases h

/-- Where nothing can be copied, nothing is offered, and nothing is said to be copied. -/
theorem runCopy_of_not_copied {args : List String} (hfs : fs.root = resume.entries)
    (h : CommandLine.copied? resume.personalInfo.contact ⟨"copy", args⟩ = none)
    (clipboard : Clipboard) :
    (runCopy args fs clipboard).2 = clipboard ∧
      ∀ field, (runCopy args fs clipboard).1 ≠ "Copied " ++ field ++ " to clipboard" := by
  have hcopied (field : String) :
      Text.startsWith ("Copied " ++ field ++ " to clipboard") "Copied " = true :=
    Text.startsWith_append (Text.startsWith_append (Text.startsWith_self _) _) _
  have husage (field : String) :
      "Usage: copy <field> (where field is email, phone, website, linkedin, or github)" ≠
        "Copied " ++ field ++ " to clipboard" :=
    Text.Apart.ne (a := "Usage: ") (b := "Copied ") (by decide) (by decide +kernel)
      (hcopied field)
  rcases args with _ | ⟨word, _ | ⟨next, rest⟩⟩
  · exact ⟨rfl, husage⟩
  · simp only [CommandLine.copied?, if_pos, Option.map_eq_none_iff] at h
    simp only [runCopy, findContact_eq hfs, h, true_and]
    intro field
    split
    · exact Text.Apart.ne (a := "Field not found: ") (b := "Copied ") (by decide)
        (Text.startsWith_append (Text.startsWith_self _) _) (hcopied field)
    · exact Text.Apart.ne (a := "Invalid field. ") (b := "Copied ") (by decide)
        (by decide +kernel) (hcopied field)
  · exact ⟨rfl, husage⟩

/-! ### Lines -/

/-- A line that names `copy` is answered by it, and moves nowhere. -/
theorem run_copy (args : List String) (fs : FileSystem) (clipboard : Clipboard) :
    registry.run ⟨"copy", args⟩ fs clipboard =
      ⟨⟨(runCopy args fs clipboard).1, fs⟩, (runCopy args fs clipboard).2, []⟩ :=
  run_of_action_eq_ok (b := copy) rfl

/-- No other command reaches the clipboard. -/
theorem clipboard_run_of_ne {line : CommandLine} (h : line.command ≠ "copy") (fs : FileSystem)
    (clipboard : Clipboard) : (registry.run line fs clipboard).clipboard = clipboard := by
  obtain ⟨name, args⟩ := line
  by_cases hname : ∃ b : Builtin, b.name = name
  · obtain ⟨b, rfl⟩ := hname
    have haction : (b.action args fs clipboard).2 = clipboard := by
      cases b with
      | copy => exact absurd rfl h
      | _ => rfl
    rcases hresult : (b.action args fs clipboard).1 with message | answer
    · rw [run_of_action_eq_error hresult, haction]
    · rw [run_of_action_eq_ok hresult, haction]
  · rw [run_of_forall_ne (by simpa using hname)]

/-- **A line reaches the clipboard exactly if it copies**, and offers the value that it copies. -/
theorem clipboard_run (hfs : fs.root = resume.entries) (line : CommandLine)
    (clipboard : Clipboard) :
    (registry.run line fs clipboard).clipboard =
      match line.copied? resume.personalInfo.contact with
      | some (_, value) => clipboard.offer value
      | none => clipboard := by
  obtain ⟨name, args⟩ := line
  by_cases hname : name = "copy"
  · subst hname
    rw [run_copy]
    split
    · next field value hcopied => exact (runCopy_of_copied hfs hcopied clipboard).1
    · next hcopied => exact (runCopy_of_not_copied hfs hcopied clipboard).1
  · have hcopied : CommandLine.copied? resume.personalInfo.contact ⟨name, args⟩ = none := by
      rw [Option.eq_none_iff_forall_ne_some]
      exact fun copied hsome => hname (CommandLine.command_of_copied hsome)
    rw [hcopied]
    exact clipboard_run_of_ne hname fs clipboard

/-- **A field is said to be copied exactly if it was offered and taken.** -/
theorem output_run_eq_copied_iff (hfs : fs.root = resume.entries) {line : CommandLine}
    (hline : line.command = "copy") (clipboard : Clipboard) (field : String) :
    (registry.run line fs clipboard).answer.output = "Copied " ++ field ++ " to clipboard" ↔
      ∃ value, line.copied? resume.personalInfo.contact = some (field, value) ∧
        clipboard.response value = none := by
  obtain ⟨name, args⟩ := line
  obtain rfl : name = "copy" := hline
  rw [run_copy]
  cases hcopied : CommandLine.copied? resume.personalInfo.contact ⟨"copy", args⟩ with
  | none =>
      have hnot := (runCopy_of_not_copied hfs hcopied clipboard).2 field
      simp [hnot]
  | some copied =>
      obtain ⟨found, value⟩ := copied
      have htaken := (runCopy_of_copied hfs hcopied clipboard).2 field
      simp [htaken, eq_comm]

end Builtin

end VitaeShell
