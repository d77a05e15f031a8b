import VitaeShell.Proofs.Resume.Filing

/-!
# Documents that cannot be filed

A document is filed whole or not at all. Its tree always has the six nodes of a résumé, each made
from the part of its name (`Document.Shows`); where one of the parts cannot be used, or the document
is missing or no résumé, nothing is filed, and the one notice says why (`Document.Reports`).

A part that was replaced without a check can still be used in two ways: any value can stand in the
file about the person, and an empty collection holds no positions and no projects.

## Main results

* `file_of_shows`, `file_of_reports`: what becomes of a document in either case.
* `file_cases`: there is no other case.
-/

namespace VitaeShell.Document

/-- The tree that a document **shows**, if it holds a résumé or a draft that can be filed. -/
inductive Shows : Document → Entries → Prop
  | raw {value : Json} {resume : Resume} : Resume.validate value = .ok resume →
      Shows (.raw value) resume.entries
  | draft {draft : Draft} {entries : Entries} : draft.Shows entries →
      Shows (.draft draft) entries

/-- What there is to **report** about a document that shows nothing. -/
inductive Reports : Document → Notice → Prop
  | missing : Reports .missing .noDocument
  | raw {value : Json} {faults : List Resume.Fault} : Resume.validate value = .error faults →
      Reports (.raw value) (.invalidDocument faults)
  | draft {draft : Draft} {fault : Draft.Fault} : draft.entries = .error fault →
      Reports (.draft draft) (.unfitDocument fault)

/-- Every tree that is shown has the six nodes of a résumé. -/
theorem Shows.names_eq {document : Document} {root : Entries} (h : document.Shows root) :
    Table.names root =
      ["personalInfo", "about.txt", "experience", "skills", "projects", "education"] := by
  cases h with
  | raw hvalid =>
      rw [Resume.entries_eq]
      rfl
  | draft hshows =>
      cases hshows
      rfl

/-- Every report is that of an error. -/
theorem Reports.level_eq {document : Document} {notice : Notice} (h : document.Reports notice) :
    notice.level = .error := by
  cases h <;> rfl

/-- What a document shows is filed as it is, and nothing is reported. -/
theorem file_of_shows {document : Document} {root : Entries} (h : document.Shows root) :
    document.file = (⟨root, []⟩, []) := by
  cases h with
  | raw hvalid =>
      rw [file, hvalid]
      simp only [fileDraft, Draft.entries_ofResume]
  | draft hshows =>
      rw [file, fileDraft, Draft.entries_eq_ok_iff.mpr hshows]

/-- Where a document reports something, nothing is filed. -/
theorem file_of_reports {document : Document} {notice : Notice} (h : document.Reports notice) :
    document.file = (.empty, [notice]) := by
  cases h with
  | missing => rfl
  | raw hfaults => rw [file, hfaults]
  | draft hfault => rw [file, fileDraft, hfault]

/-- A document shows a tree, or there is something to report. -/
theorem shows_or_reports (document : Document) :
    (∃ root, document.Shows root) ∨ ∃ notice, document.Reports notice := by
  cases document with
  | missing => exact .inr ⟨_, .missing⟩
  | raw value =>
      cases hchecked : Resume.validate value with
      | ok resume => exact .inl ⟨_, .raw hchecked⟩
      | error faults => exact .inr ⟨_, .raw hchecked⟩
  | draft draft =>
      cases hentries : draft.entries with
      | ok entries => exact .inl ⟨_, .draft (Draft.entries_eq_ok_iff.mp hentries)⟩
      | error fault => exact .inr ⟨_, .draft hentries⟩

/-- What is reported shows nothing. -/
theorem Reports.not_shows {document : Document} {notice : Notice} (h : document.Reports notice)
    (root : Entries) : ¬document.Shows root := by
  intro hshows
  have hfile := (file_of_shows hshows).symm.trans (file_of_reports h)
  cases congrArg Prod.snd hfile

/-- **All or nothing.** A document that shows a tree is filed as that tree, with the six nodes of a
résumé and without a notice; any other is filed as the empty file system, with one notice of an
error, which says why. A value that is a résumé is filed as that résumé is. -/
theorem file_cases (document : Document) :
    ((∃ root, document.Shows root ∧ document.file = (⟨root, []⟩, []) ∧
        Table.names root =
          ["personalInfo", "about.txt", "experience", "skills", "projects", "education"]) ∨
      (∀ root, ¬document.Shows root) ∧
        ∃ notice, document.Reports notice ∧ document.file = (.empty, [notice]) ∧
          notice.level = .error) ∧
    ∀ value resume, Resume.validate value = .ok resume →
      (raw value).file = (ofResume resume).file := by
  refine ⟨?_, fun value resume hvalid => ?_⟩
  · rcases document.shows_or_reports with ⟨root, hshows⟩ | ⟨notice, hreports⟩
    · exact .inl ⟨root, hshows, file_of_shows hshows, hshows.names_eq⟩
    · exact .inr ⟨hreports.not_shows, notice, hreports, file_of_reports hreports,
        hreports.level_eq⟩
  · rw [file_of_shows (.raw hvalid)]
    rfl

end VitaeShell.Document
