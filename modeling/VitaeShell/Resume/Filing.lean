import VitaeShell.FileSystem
import VitaeShell.Notice
import VitaeShell.Resume.Draft
import VitaeShell.Resume.Validation

/-!
# Filing a résumé

The tree of files that shows a résumé (`Resume.entries`), and the file system of any document
(`Document.file`): a document that is missing or faulty gives the empty file system and one notice.
-/

namespace VitaeShell

/-! ### The parts as directories -/

/-- The personal part. -/
def PersonalInfo.node (info : PersonalInfo) : Node :=
  .ofList [
    ("name.txt", .ofText info.name),
    ("title.txt", .ofText info.title),
    ("contact", .ofList (info.contact.fields.filterMap fun field =>
      field.2.map fun value => (field.1 ++ ".txt", .ofText value)))]

/-- The name of the directory of the position with a number. -/
def Experience.directoryName (job : Experience) (number : Nat) : String :=
  sanitize job.company ++ "_" ++ toString number

/-- One position. -/
def Experience.node (job : Experience) : Node :=
  .ofList [
    ("position.txt", .ofText job.position),
    ("location.txt", .ofText job.location),
    ("startDate.txt", .ofText job.startDate),
    ("endDate.txt", .ofText job.endDate),
    ("responsibilities.txt", .ofText (String.intercalate "\n" job.responsibilities))]

/-- The positions, numbered from one. -/
def experienceNode (jobs : List Experience) : Node :=
  .ofList (jobs.zipIdx.map fun (job, i) => (job.directoryName (i + 1), job.node))

/-- The skills. -/
def Skills.node (skills : Skills) : Node :=
  .ofList [
    ("technical.txt", .ofText (String.intercalate ", " skills.technical)),
    ("soft.txt", .ofText (String.intercalate ", " skills.soft))]

/-- The projects, numbered from one. -/
def projectsNode (projects : List Project) : Node :=
  .ofList (projects.zipIdx.map fun (project, i) =>
    ("project" ++ toString (i + 1) ++ ".txt",
      .ofText (project.name ++ "\n" ++ project.description)))

/-- The education. -/
def Education.node (education : Education) : Node :=
  .ofList [
    ("university.txt", .ofText education.university),
    ("certifications.txt", .ofText (String.intercalate "\n" education.certifications))]

/-! ### The whole tree -/

/-- The tree of a draft, if its parts can be filed. The projects are looked at first. -/
def Draft.entries (draft : Draft) : Except Draft.Fault Entries := do
  let projects ← draft.projects.items
  let personalInfo ← draft.personalInfo.fields
  let experience ← draft.experience.items
  let skills ← draft.skills.fields
  let education ← draft.education.fields
  return [
    ("personalInfo", personalInfo.node),
    ("about.txt", .file draft.about.content),
    ("experience", experienceNode experience),
    ("skills", skills.node),
    ("projects", projectsNode projects),
    ("education", education.node)]

/-- The tree of a résumé. -/
def Resume.entries (resume : Resume) : Entries :=
  [("personalInfo", resume.personalInfo.node),
    ("about.txt", .ofText resume.about),
    ("experience", experienceNode resume.experience),
    ("skills", resume.skills.node),
    ("projects", projectsNode resume.projects),
    ("education", resume.education.node)]

/-- A résumé can always be filed. -/
theorem Draft.entries_ofResume (resume : Resume) :
    (Draft.ofResume resume).entries = .ok resume.entries := rfl

/-! ### Documents -/

/-- What a terminal is opened on. -/
inductive Document where
  | missing
  /-- A value that has not been checked. -/
  | raw (value : Json)
  | draft (value : Draft)

namespace Document

/-- A checked résumé as a document. -/
def ofResume (resume : Resume) : Document :=
  .draft (Draft.ofResume resume)

/-- A value as a document; null stands for none. -/
def ofJson : Json → Document
  | .null => .missing
  | value => .raw value

/-- The file system of a draft. -/
def fileDraft (draft : Draft) : FileSystem × List Notice :=
  match draft.entries with
  | .ok entries => (⟨entries, []⟩, [])
  | .error fault => (.empty, [.unfitDocument fault])

/-- The file system of a document, at its root, with what there is to report. -/
def file : Document → FileSystem × List Notice
  | .missing => (.empty, [.noDocument])
  | .raw value =>
    match Resume.validate value with
    | .ok resume => fileDraft (Draft.ofResume resume)
    | .error faults => (.empty, [.invalidDocument faults])
  | .draft value => fileDraft value

end Document

end VitaeShell
