import VitaeShell.Proofs.Command.Run
import VitaeShell.Proofs.Session.Run
import VitaeShell.Resume.Sample

/-!
# The current directory of a session

The tree of a session is the one that its document was filed as, and the current directory is a
directory in it. No operation breaks this: `cd` checks where a path leads before it moves there, and
everything else stays in its place. The report of a lost directory is therefore never seen.

The document may be anything, also one whose files hold something else than text; commands that fail
on such files move nowhere.

## Main results

* `run_stands`: a command that starts in a directory ends in a directory of the same tree.
* `resident_of_mem_run`: after each operation of a run the current directory exists, and no output
  says otherwise.
-/

namespace VitaeShell

/-- The current directory of the file system exists. -/
def FileSystem.Stands (fs : FileSystem) : Prop :=
  ∃ entries, Entries.Leads fs.root fs.cwd entries

/-- Where a file system stands, there is a directory. -/
theorem FileSystem.Stands.exists_here? {fs : FileSystem} (h : fs.Stands) :
    ∃ entries, fs.here? = some entries := by
  obtain ⟨entries, hentries⟩ := h
  exact ⟨entries, here?_eq_some_iff.mpr hentries⟩

/-- Moving ends in a directory of the same tree. -/
theorem FileSystem.stands_of_enter {fs moved : FileSystem} {path : String}
    (h : fs.enter path = .ok moved) : moved.root = fs.root ∧ moved.Stands := by
  obtain ⟨⟨place, hplace⟩, rfl⟩ := enter_eq_ok_iff.mp h
  exact ⟨rfl, place, hplace⟩

namespace Builtin

/-- In a directory that exists no answer is the report of a lost one. -/
theorem Answers.ne_lost {fs : FileSystem} {b : Builtin} {args : List String} {output : String}
    (h : Answers fs b args output) (hfs : fs.Stands) : output ≠ PathFault.lost.message := by
  have hlost : Text.startsWith PathFault.lost.message PathFault.lost.message = true :=
    Text.startsWith_self _
  have hpayload : Text.Apart payloadOpening PathFault.lost.message := by decide
  cases h with
  | cleared => decide
  | shown => exact hpayload.ne (Payload.startsWith_encode _) hlost
  | told htells => exact htells.ne (by simp) hlost
  | lost hhere =>
      obtain ⟨entries, hentries⟩ := hfs.exists_here?
      rw [hhere] at hentries
      cases hentries
  | untyped => exact hpayload.ne (Json.startsWith_encode_object _) hlost

/-- **A command stays in the tree.** What a line leaves behind has the same tree, the current
directory exists in it, and the output is not the report of a lost one. -/
theorem run_stands {fs : FileSystem} (hfs : fs.Stands) (line : CommandLine)
    (clipboard : Clipboard) :
    ((registry.run line fs clipboard).answer.fs.root = fs.root ∧
      (registry.run line fs clipboard).answer.fs.Stands) ∧
      (registry.run line fs clipboard).answer.output ≠ PathFault.lost.message := by
  have htrouble : Text.Apart troubleOpening PathFault.lost.message := by decide
  obtain ⟨name, args⟩ := line
  by_cases hname : ∃ b : Builtin, b.name = name
  · obtain ⟨b, rfl⟩ := hname
    rcases haction : (b.action args fs clipboard).1 with message | answer
    · rw [run_of_action_eq_error haction]
      exact ⟨⟨rfl, hfs⟩, htrouble.ne (Registry.startsWith_failureMessage _ _)
        (Text.startsWith_self _)⟩
    · rw [run_of_action_eq_ok haction]
      refine ⟨?_, (answers_action haction).ne_lost hfs⟩
      rcases action_fs haction with ⟨hsame, -⟩ | ⟨-, hmoved⟩
      · rw [hsame]
        exact ⟨rfl, hfs⟩
      · exact FileSystem.stands_of_enter hmoved
  · have hne : ∀ b : Builtin, b.name ≠ name := by simpa using hname
    rw [run_of_forall_ne hne]
    exact ⟨⟨rfl, hfs⟩, htrouble.ne (Registry.startsWith_unknownMessage _)
      (Text.startsWith_self _)⟩

end Builtin

/-- A document is filed at its root. -/
theorem Document.file_cwd (document : Document) : document.file.1.cwd = [] := by
  have hdraft (draft : Draft) : (fileDraft draft).1.cwd = [] := by
    rw [fileDraft]
    split <;> rfl
  cases document with
  | missing => rfl
  | raw value =>
      rw [file]
      split
      · exact hdraft _
      · rfl
  | draft draft => exact hdraft draft

namespace Session

/-- A session **resides** in the tree of a document: it has that tree, and stands in a directory of
it. -/
def Resident (document : Document) (s : Session) : Prop :=
  s.fs.root = document.file.1.root ∧ s.fs.Stands

/-- A new session stands at the root. -/
theorem resident_start (setting : Setting) : Resident setting.document (start setting).1 := by
  refine ⟨rfl, setting.document.file.1.root, ?_⟩
  rw [start_fs, Document.file_cwd]
  exact .arrived _

/-- A submitted line keeps a session in its tree and reports no lost directory. -/
theorem resident_submitLine {document : Document} {s : Session} (hs : s.Resident document)
    (clipboard : Clipboard) (line : String) :
    (s.submitLine ⟨document, Builtin.registry⟩ clipboard line).session.Resident document ∧
      (s.submitLine ⟨document, Builtin.registry⟩ clipboard line).result ≠
        PathFault.lost.message := by
  obtain ⟨hroot, hstands⟩ := hs
  rw [Resident, submitLine_fs, submitLine_result]
  -- how the line is read does not matter here
  generalize CommandLine.parse line = command
  obtain ⟨⟨hkept, hstill⟩, houtput⟩ := Builtin.run_stands hstands command clipboard
  exact ⟨⟨hkept.trans hroot, hstill⟩, houtput⟩

/-- **Every operation keeps a session in its tree** and reports no lost directory. -/
theorem resident_step {document : Document} {s : Session} (hs : s.Resident document)
    (clipboard : Clipboard) (op : Op) :
    (s.step ⟨document, Builtin.registry⟩ clipboard op).session.Resident document ∧
      PathFault.lost.message ∉
        op.outputs (s.step ⟨document, Builtin.registry⟩ clipboard op).result := by
  cases op with
  | submit line =>
      obtain ⟨hsession, houtput⟩ := resident_submitLine hs clipboard (line.getD s.input)
      refine ⟨hsession, ?_⟩
      rw [step, Op.outputs, List.mem_singleton]
      exact houtput.symm
  | press key character =>
      refine ⟨?_, by simp [Op.outputs]⟩
      rw [step, Resident, press_fs]
      exact hs
  | setInput text => exact ⟨hs, by simp [Op.outputs]⟩
  | refresh => exact ⟨resident_start ⟨document, Builtin.registry⟩, by simp [Op.outputs]⟩
  | script lines =>
      obtain ⟨hsession, houtputs⟩ := forall_runScript (P := Resident document)
        (Q := (· ≠ PathFault.lost.message))
        (fun s clipboard line hs => resident_submitLine hs clipboard line) hs clipboard lines
      exact ⟨hsession, fun houtput => houtputs _ houtput rfl⟩

/-- A reached session is resident in its document. -/
theorem Reached.resident {document : Document} {s : Session}
    (h : Reached ⟨document, Builtin.registry⟩ s) : s.Resident document := by
  induction h with
  | start => exact resident_start ⟨document, Builtin.registry⟩
  | step clipboard op _ ih => exact (resident_step ih clipboard op).1

/-- **The current directory always exists.** After each operation of a run with the built-in
commands, on any document and with any clipboard, the tree is that of the document, the current path
leads down from its root to a directory, and no output reports a lost one. -/
theorem resident_of_mem_run (document : Document) (clipboard : Clipboard) (ops : List Op) :
    ∀ entry ∈ run ⟨document, Builtin.registry⟩ (start ⟨document, Builtin.registry⟩).1 clipboard ops,
      entry.2.session.fs.root = document.file.1.root ∧
      (∃ entries, Entries.Leads entry.2.session.fs.root entry.2.session.fs.cwd entries ∧
        entry.2.session.fs.here = .ok entries) ∧
      PathFault.lost.message ∉ entry.1.outputs entry.2.result := by
  intro entry hentry
  obtain ⟨⟨hroot, entries, hleads⟩, houtputs⟩ := forall_mem_run (P := Resident document)
    (Q := fun op step => PathFault.lost.message ∉ op.outputs step.result)
    (fun s clipboard op hs => resident_step hs clipboard op)
    (resident_start ⟨document, Builtin.registry⟩) clipboard ops entry hentry
  have hhere : entry.2.session.fs.here = .ok entries :=
    FileSystem.here_eq_ok_iff.mpr (FileSystem.here?_eq_some_iff.mpr hleads)
  exact ⟨hroot, ⟨entries, hleads, hhere⟩, houtputs⟩

/-- A walk to a directory that does not exist, and to one that does. -/
def walk : List Op :=
  [.submit (some "cd experience/../nowhere"), .script ["# back", "cd ./education", "ls"]]

/-- A script that lists a directory meets no lost one, though a line before it has failed. -/
theorem resident_of_mem_walk :
    ∃ entry ∈ run ⟨.ofResume .sample, Builtin.registry⟩
        (start ⟨.ofResume .sample, Builtin.registry⟩).1 .willing walk,
      entry.1 = .script ["# back", "cd ./education", "ls"] ∧
      (∃ entries, entry.2.session.fs.here = .ok entries) ∧
      PathFault.lost.message ∉ entry.1.outputs entry.2.result := by
  refine ⟨_, .tail _ (.head _), rfl, ?_⟩
  obtain ⟨-, ⟨entries, -, hhere⟩, houtputs⟩ :=
    resident_of_mem_run (.ofResume .sample) .willing walk _ (.tail _ (.head _))
  exact ⟨⟨entries, hhere⟩, houtputs⟩

end Session

end VitaeShell
