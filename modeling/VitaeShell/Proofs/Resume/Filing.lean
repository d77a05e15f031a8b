import VitaeShell.Proofs.Fallible
import VitaeShell.Proofs.Table
import VitaeShell.Proofs.Tree
import VitaeShell.Resume.Filing

/-!
# The files of a résumé

A directory is made from a list of nodes in which a later node of a name would push out an earlier
one. Filing a résumé never comes to that: the names in each directory are different, whatever the
résumé says. Positions of one company, or of companies whose names come out alike, are told apart by
their numbers. So the tree holds each part of the résumé in a file of its own, in the order of the
résumé (`Resume.listing`).

The same names are used for every document, also for one whose parts were replaced without a check;
all of them are safe in a path and in a line of words.

## Main results

* `Document.isSegment_of_mem_namesWithin`: the names in the tree of any document are safe segments.
* `Document.Checked.textOnly`: the files of a checked document hold text.
* `Document.walk_file_ofResume`: the files of a résumé, all of them and in order.
* `Draft.entries_eq_ok_iff`: which drafts can be filed, and as what.
-/

namespace VitaeShell

/-! ### What is filed -/

/-- Named texts as the contents of files. -/
def contents (sheets : List (String × String)) : List (String × Json) :=
  sheets.map fun sheet => (sheet.1, .text sheet.2)

/-- The contact fields that are given, each in a file of its name. -/
def Contact.sheets (contact : Contact) : List (String × String) :=
  [("email", some contact.email), ("phone", contact.phone), ("website", contact.website),
    ("linkedin", contact.linkedin), ("github", contact.github)].filterMap fun field =>
      field.2.map fun value => (field.1 ++ ".txt", value)

/-- The personal part but for the contact fields. -/
def PersonalInfo.sheets (info : PersonalInfo) : List (String × String) :=
  [("name.txt", info.name), ("title.txt", info.title)]

/-- One position. -/
def Experience.sheets (job : Experience) : List (String × String) :=
  [("position.txt", job.position), ("location.txt", job.location), ("startDate.txt", job.startDate),
    ("endDate.txt", job.endDate),
    ("responsibilities.txt", String.intercalate "\n" job.responsibilities)]

/-- The skills. -/
def Skills.sheets (skills : Skills) : List (String × String) :=
  [("technical.txt", String.intercalate ", " skills.technical),
    ("soft.txt", String.intercalate ", " skills.soft)]

/-- The projects, numbered from one. -/
def projectSheets (projects : List Project) : List (String × String) :=
  projects.zipIdx.map fun (project, i) =>
    ("project" ++ toString (i + 1) ++ ".txt", project.name ++ "\n" ++ project.description)

/-- The education. -/
def Education.sheets (education : Education) : List (String × String) :=
  [("university.txt", education.university),
    ("certifications.txt", String.intercalate "\n" education.certifications)]

/-- Everything that a résumé says, by path. The positions are numbered from one. -/
def Resume.listing (resume : Resume) : List (String × String) :=
  within "personalInfo"
      (resume.personalInfo.sheets ++ within "contact" resume.personalInfo.contact.sheets) ++
    [("about.txt", resume.about)] ++
    within "experience" (resume.experience.zipIdx.flatMap fun (job, i) =>
      within (sanitize job.company ++ "_" ++ toString (i + 1)) job.sheets) ++
    within "skills" resume.skills.sheets ++
    within "projects" (projectSheets resume.projects) ++
    within "education" resume.education.sheets

/-- To put sheets into a directory, it does not matter whether they are texts or files. -/
theorem within_contents (directory : String) (sheets : List (String × String)) :
    within directory (contents sheets) = contents (within directory sheets) := by
  simp [within, contents, Function.comp_def]

/-- The contents of two lists of sheets follow one another. -/
theorem contents_append (sheets others : List (String × String)) :
    contents (sheets ++ others) = contents sheets ++ contents others :=
  List.map_append

/-! ### Directories of texts -/

namespace Entries

/-- A directory that holds texts only. -/
def texts (sheets : List (String × String)) : Entries :=
  sheets.map fun sheet => (sheet.1, .ofText sheet.2)

/-- The entries are named as the sheets are. -/
theorem names_texts (sheets : List (String × String)) :
    Table.names (texts sheets) = sheets.map (·.1) := by
  simp [Table.names, texts, Function.comp_def]

/-- Nodes of different names make up the directory that holds them. -/
theorem ofList_eq_dir {entries : Entries} (h : Table.Distinct entries) :
    Node.ofList entries = .dir entries := by
  rw [Node.ofList, Table.ofList_eq_self h]

/-- The files of such a directory are its sheets. -/
theorem walk_texts (sheets : List (String × String)) : walk (texts sheets) = contents sheets := by
  induction sheets with
  | nil => rfl
  | cons sheet sheets ih =>
      rw [texts, List.map_cons, Node.ofText, walk_cons_file, contents, List.map_cons]
      exact congrArg _ ih

/-- Named texts that can stand together in a directory: their names are different, and safe. -/
structure Fileable (sheets : List (String × String)) : Prop where
  nodup : (sheets.map (·.1)).Nodup
  isSegment : ∀ sheet ∈ sheets, IsSegment sheet.1

/-- It is enough to look at the names, or at more names than there are texts. -/
theorem Fileable.of_sublist {sheets : List (String × String)} (names : List String)
    (h : (sheets.map (·.1)).Sublist names) (hnodup : names.Nodup)
    (hsegment : ∀ name ∈ names, IsSegment name) : Fileable sheets :=
  ⟨h.nodup hnodup, fun _ hsheet => hsegment _ (h.subset (List.mem_map_of_mem hsheet))⟩

/-- No two sheets that can be filed have the same name. -/
theorem Fileable.distinct_texts {sheets : List (String × String)} (h : Fileable sheets) :
    Table.Distinct (texts sheets) := by
  rw [Table.Distinct, names_texts]
  exact h.nodup

/-- Filed one by one, the sheets make a directory of all of them. -/
theorem Fileable.ofList_texts {sheets : List (String × String)} (h : Fileable sheets) :
    Node.ofList (texts sheets) = .dir (texts sheets) :=
  ofList_eq_dir h.distinct_texts

/-- Sheets that can be filed make a tidy directory. -/
theorem Fileable.tidy_texts {sheets : List (String × String)} (h : Fileable sheets) :
    Tidy (texts sheets) := by
  refine tidy_iff.mpr ⟨h.distinct_texts, fun entry hentry => ?_⟩
  obtain ⟨sheet, hsheet, rfl⟩ := List.mem_map.mp hentry
  exact ⟨h.isSegment sheet hsheet, nodeTidy_file _⟩

end Entries

open Entries

/-! ### The parts as directories -/

/-- The names of the fields that are given stand in the order of all fields. -/
theorem map_given_sublist (fields : List (String × Option String)) :
    ((fields.filterMap fun field =>
      field.2.map fun value => (field.1 ++ ".txt", value)).map (·.1)).Sublist
        (fields.map fun field => field.1 ++ ".txt") := by
  induction fields with
  | nil => exact List.Sublist.refl _
  | cons field fields ih =>
      obtain ⟨name, value⟩ := field
      cases value with
      | none => exact ih.cons _
      | some value => exact ih.cons_cons _

/-- The contact values can be filed. -/
theorem Contact.fileable_sheets (contact : Contact) : Fileable contact.sheets := by
  refine .of_sublist ["email.txt", "phone.txt", "website.txt", "linkedin.txt", "github.txt"] ?_
    (by decide) (by decide)
  exact map_given_sublist [("email", some contact.email), ("phone", contact.phone),
    ("website", contact.website), ("linkedin", contact.linkedin), ("github", contact.github)]

/-- So can the personal information. -/
theorem PersonalInfo.fileable_sheets (info : PersonalInfo) : Fileable info.sheets :=
  .of_sublist ["name.txt", "title.txt"] (.refl _) (by decide) (by decide)

/-- So can a job. -/
theorem Experience.fileable_sheets (job : Experience) : Fileable job.sheets :=
  .of_sublist
    ["position.txt", "location.txt", "startDate.txt", "endDate.txt", "responsibilities.txt"]
    (.refl _) (by decide) (by decide)

/-- So can the skills. -/
theorem Skills.fileable_sheets (skills : Skills) : Fileable skills.sheets :=
  .of_sublist ["technical.txt", "soft.txt"] (.refl _) (by decide) (by decide)

/-- So can the education. -/
theorem Education.fileable_sheets (education : Education) : Fileable education.sheets :=
  .of_sublist ["university.txt", "certifications.txt"] (.refl _) (by decide) (by decide)

/-- Nodes that are told apart by their numbers have different names. -/
theorem nodup_numbered {α : Type} (items : List α) (name : α → Nat → String)
    (h : ∀ x y i j, name x i = name y j → i = j) :
    (items.zipIdx.map fun item => name item.1 item.2).Nodup := by
  have hlabels : ∀ a ∈ items.zipIdx, ∀ b ∈ items.zipIdx,
      name a.1 a.2 = name b.1 b.2 → a = b := by
    rintro ⟨x, i⟩ hx ⟨y, j⟩ hy heq
    obtain rfl : i = j := h x y i j heq
    rw [List.mk_mem_zipIdx_iff_getElem?] at hx hy
    rw [hx] at hy
    rw [Option.some.inj hy]
  have hnodup : items.zipIdx.Nodup := by
    refine List.Nodup.of_map Prod.snd ?_
    rw [List.zipIdx_map_snd]
    exact List.nodup_range'
  exact List.Nodup.map_on hlabels hnodup

/-- So can the projects, each under its number. -/
theorem fileable_projectSheets (projects : List Project) : Fileable (projectSheets projects) where
  nodup := by
    rw [projectSheets, List.map_map]
    refine nodup_numbered projects (fun _ i => "project" ++ toString (i + 1) ++ ".txt") ?_
    intro _ _ i j h
    have hnumber : toString (i + 1) = toString (j + 1) := by
      rw [← String.toList_inj]
      simpa using congrArg String.toList h
    exact Nat.succ.inj (toString_nat_injective hnumber)
  isSegment := by
    intro sheet hsheet
    obtain ⟨⟨project, i⟩, -, rfl⟩ := List.mem_map.mp hsheet
    have hstem : IsSegment ("project" ++ toString (i + 1)) :=
      IsSegment.append (by decide) (isSegment_toString (i + 1))
    exact hstem.append (by decide)

/-- The nodes of the personal part. -/
def PersonalInfo.entries (info : PersonalInfo) : Entries :=
  texts info.sheets ++ [("contact", .dir (texts info.contact.sheets))]

/-- The directory of the personal information is tidy. -/
theorem PersonalInfo.tidy_entries (info : PersonalInfo) : Tidy info.entries := by
  refine tidy_iff.mpr ⟨?_, ?_⟩
  · show ["name.txt", "title.txt", "contact"].Nodup
    decide
  · have hcontact : IsSegment "contact" := by decide
    rw [entries, List.forall_mem_append, List.forall_mem_singleton]
    exact ⟨(tidy_iff.mp info.fileable_sheets.tidy_texts).2, hcontact,
      info.contact.fileable_sheets.tidy_texts⟩

/-- The nodes of the positions. -/
def experienceEntries (jobs : List Experience) : Entries :=
  jobs.zipIdx.map fun (job, i) => (job.directoryName (i + 1), .dir (texts job.sheets))

/-- The directory of a job has a name that is safe, whatever the company is called. -/
theorem Experience.isSegment_directoryName (job : Experience) (number : Nat) :
    IsSegment (job.directoryName number) :=
  ((isSegment_sanitize job.company).append (by decide)).append (isSegment_toString number)

/-- The directory of the jobs is tidy, since each has its number in the name. -/
theorem tidy_experienceEntries (jobs : List Experience) : Tidy (experienceEntries jobs) := by
  refine tidy_iff.mpr ⟨?_, fun entry hentry => ?_⟩
  · rw [Table.Distinct, Table.names, experienceEntries, List.map_map]
    exact nodup_numbered jobs (fun job i => job.directoryName (i + 1))
      fun x y i j h => Nat.succ.inj (number_injective h)
  · obtain ⟨⟨job, i⟩, -, rfl⟩ := List.mem_map.mp hentry
    exact ⟨job.isSegment_directoryName (i + 1), job.fileable_sheets.tidy_texts⟩

/-- The files of all jobs are their sheets, each below the directory of its job. -/
theorem walk_experienceEntries (jobs : List Experience) :
    walk (experienceEntries jobs) = contents (jobs.zipIdx.flatMap fun (job, i) =>
      within (sanitize job.company ++ "_" ++ toString (i + 1)) job.sheets) := by
  rw [experienceEntries]
  induction jobs.zipIdx with
  | nil => rfl
  | cons job jobs ih =>
      rw [List.map_cons, walk_cons_dir, ih, walk_texts, within_contents, List.flatMap_cons,
        contents_append]
      rfl

/-! Each part makes up the directory that holds its nodes, as their names are different. -/

/-- Built one by one, the entries are those of the personal information. -/
theorem PersonalInfo.node_eq (info : PersonalInfo) : info.node = .dir info.entries := by
  have hcontact : (info.contact.fields.filterMap fun field =>
      field.2.map fun value => (field.1 ++ ".txt", Node.ofText value)) =
        texts info.contact.sheets := by
    rw [texts, Contact.sheets, List.map_filterMap]
    simp [Contact.fields, Function.comp_def]
  rw [node, hcontact, info.contact.fileable_sheets.ofList_texts]
  exact ofList_eq_dir (tidy_iff.mp info.tidy_entries).1

/-- So are those of the jobs. -/
theorem experienceNode_eq (jobs : List Experience) :
    experienceNode jobs = .dir (experienceEntries jobs) := by
  have hnode (job : Experience) : job.node = .dir (texts job.sheets) :=
    job.fileable_sheets.ofList_texts
  simp only [experienceNode, hnode]
  exact ofList_eq_dir (tidy_iff.mp (tidy_experienceEntries jobs)).1

/-- So are those of the skills. -/
theorem Skills.node_eq (skills : Skills) : skills.node = .dir (texts skills.sheets) :=
  skills.fileable_sheets.ofList_texts

/-- So are those of the projects. -/
theorem projectsNode_eq (projects : List Project) :
    projectsNode projects = .dir (texts (projectSheets projects)) := by
  rw [← (fileable_projectSheets projects).ofList_texts, projectsNode, texts, projectSheets,
    List.map_map]
  rfl

/-- So are those of the education. -/
theorem Education.node_eq (education : Education) :
    education.node = .dir (texts education.sheets) :=
  education.fileable_sheets.ofList_texts

/-! ### The whole tree -/

/-- The nodes of a tree of these parts. Whatever its content, there is a file for the text about the
person. -/
def rootEntries (info : PersonalInfo) (about : Json) (jobs : List Experience) (skills : Skills)
    (projects : List Project) (education : Education) : Entries :=
  [("personalInfo", .dir info.entries), ("about.txt", .file about),
    ("experience", .dir (experienceEntries jobs)), ("skills", .dir (texts skills.sheets)),
    ("projects", .dir (texts (projectSheets projects))),
    ("education", .dir (texts education.sheets))]

/-- The root of a résumé holds its text and the five directories. -/
theorem Resume.entries_eq (resume : Resume) :
    resume.entries = rootEntries resume.personalInfo (.text resume.about) resume.experience
      resume.skills resume.projects resume.education := by
  rw [entries, PersonalInfo.node_eq, experienceNode_eq, Skills.node_eq, projectsNode_eq,
    Education.node_eq]
  rfl

/-- **No directory holds a name twice, and all names are safe.** -/
theorem tidy_rootEntries (info : PersonalInfo) (about : Json) (jobs : List Experience)
    (skills : Skills) (projects : List Project) (education : Education) :
    Tidy (rootEntries info about jobs skills projects education) := by
  refine tidy_iff.mpr ⟨?_, ?_⟩
  · show ["personalInfo", "about.txt", "experience", "skills", "projects", "education"].Nodup
    decide
  · simp only [rootEntries, List.forall_mem_cons]
    exact ⟨⟨by decide, info.tidy_entries⟩, ⟨by decide, nodeTidy_file about⟩,
      ⟨by decide, tidy_experienceEntries jobs⟩,
      ⟨by decide, skills.fileable_sheets.tidy_texts⟩,
      ⟨by decide, (fileable_projectSheets projects).tidy_texts⟩,
      ⟨by decide, education.fileable_sheets.tidy_texts⟩, by simp⟩

/-- **The files of the tree are those of the listing**, in its order. -/
theorem Resume.walk_entries (resume : Resume) :
    walk resume.entries = contents resume.listing := by
  rw [entries_eq]
  simp only [rootEntries, walk_cons_dir, walk_cons_file, walk_texts, PersonalInfo.entries,
    walk_append, walk_experienceEntries, listing, contents_append, ← within_contents]
  simp [walk_nil, contents]

/-! ### Drafts -/

/-- A part **lists** its items if they have been checked. An unchecked part lists nothing, and only
if it is an empty collection. -/
inductive Part.Lists {α : Type} : Part (List α) → List α → Prop
  | checked (items : List α) : Lists (.checked items) items
  | text : Lists (.replaced (.text "")) []
  | list : Lists (.replaced (.list [])) []
  | object : Lists (.replaced (.object [])) []

/-- The items that are gone through are those that the part lists. -/
theorem Part.items_eq_ok_iff {α : Type} {part : Part (List α)} {items : List α} :
    part.items = .ok items ↔ part.Lists items := by
  constructor
  · intro h
    cases part with
    | checked found =>
        obtain rfl := Except.ok.inj h
        exact .checked found
    | replaced value =>
        cases value with
        | text s =>
            rw [Part.items] at h
            split at h
            · next hempty =>
                obtain rfl := Except.ok.inj h
                exact hempty ▸ .text
            · cases h
        | list found =>
            cases found with
            | nil =>
                obtain rfl := Except.ok.inj h
                exact .list
            | cons => cases h
        | object fields =>
            cases fields with
            | nil =>
                obtain rfl := Except.ok.inj h
                exact .object
            | cons => cases h
        | null | bool | int | float => cases h
  · rintro (_ | _ | _ | _) <;> rfl

/-- Only a checked part has fields. -/
theorem Part.fields_eq_ok_iff {α : Type} {part : Part α} {value : α} :
    part.fields = .ok value ↔ part = .checked value := by
  cases part with
  | checked found => simp [fields]
  | replaced json => simp [fields]

namespace Draft

/-- A draft **shows** a tree: the one of its checked parts, of what it lists, and of whatever stands
for the text about the person. -/
inductive Shows (draft : Draft) : Entries → Prop
  | parts {info : PersonalInfo} {jobs : List Experience} {skills : Skills}
      {projects : List Project} {education : Education} :
      draft.personalInfo = .checked info → draft.experience.Lists jobs →
      draft.skills = .checked skills → draft.projects.Lists projects →
      draft.education = .checked education →
      Shows draft (rootEntries info draft.about.content jobs skills projects education)

/-- **A draft can be filed** exactly as what it shows. -/
theorem entries_eq_ok_iff {draft : Draft} {entries : Entries} :
    draft.entries = .ok entries ↔ draft.Shows entries := by
  constructor
  · intro h
    obtain ⟨projects, hprojects, h⟩ := exists_of_bind_eq_ok h
    obtain ⟨info, hinfo, h⟩ := exists_of_bind_eq_ok h
    obtain ⟨jobs, hjobs, h⟩ := exists_of_bind_eq_ok h
    obtain ⟨skills, hskills, h⟩ := exists_of_bind_eq_ok h
    obtain ⟨education, heducation, h⟩ := exists_of_bind_eq_ok h
    obtain rfl := Except.ok.inj h
    rw [PersonalInfo.node_eq, experienceNode_eq, Skills.node_eq, projectsNode_eq,
      Education.node_eq]
    exact .parts (Part.fields_eq_ok_iff.mp hinfo) (Part.items_eq_ok_iff.mp hjobs)
      (Part.fields_eq_ok_iff.mp hskills) (Part.items_eq_ok_iff.mp hprojects)
      (Part.fields_eq_ok_iff.mp heducation)
  · rintro ⟨hinfo, hjobs, hskills, hprojects, heducation⟩
    simp only [entries, Part.items_eq_ok_iff.mpr hprojects, Part.fields_eq_ok_iff.mpr hinfo,
      Part.items_eq_ok_iff.mpr hjobs, Part.fields_eq_ok_iff.mpr hskills,
      Part.fields_eq_ok_iff.mpr heducation, PersonalInfo.node_eq, experienceNode_eq,
      Skills.node_eq, projectsNode_eq, Education.node_eq]
    rfl

end Draft

/-! ### Documents -/

namespace Document

/-- The tree of a document is empty or one of the parts of a résumé. -/
theorem root_cases (document : Document) :
    document.file.1.root = [] ∨ ∃ info about jobs skills projects education,
      document.file.1.root = rootEntries info about jobs skills projects education := by
  have hdraft (draft : Draft) : (fileDraft draft).1.root = [] ∨
      ∃ info about jobs skills projects education,
        (fileDraft draft).1.root = rootEntries info about jobs skills projects education := by
    rw [fileDraft]
    split
    · next entries hentries =>
        obtain ⟨info, jobs, skills, projects, education⟩ := Draft.entries_eq_ok_iff.mp hentries
        exact .inr ⟨_, _, _, _, _, _, rfl⟩
    · exact .inl rfl
  cases document with
  | missing => exact .inl rfl
  | raw value =>
      rw [file]
      split
      · exact hdraft _
      · exact .inl rfl
  | draft draft => exact hdraft draft

/-- **The names in the tree of any document are safe segments.** -/
theorem isSegment_of_mem_namesWithin (document : Document) :
    ∀ name ∈ namesWithin document.file.1.root, IsSegment name := by
  obtain hroot | ⟨info, about, jobs, skills, projects, education, hroot⟩ := document.root_cases
  · rw [hroot]
    simp [namesWithin]
  · rw [hroot]
    exact (tidy_rootEntries info about jobs skills projects education).isSegment

/-- A document that is **checked** is missing, or is yet to be checked when it is filed, or has been
made from a résumé. What is left out are drafts whose parts were replaced without a check. -/
def Checked : Document → Prop
  | .missing | .raw _ => True
  | .draft value => ∃ resume, value = Draft.ofResume resume

/-- Every file of a checked document holds text. -/
theorem Checked.textOnly {document : Document} (h : document.Checked) :
    TextOnly document.file.1.root := by
  have hempty : TextOnly FileSystem.empty.root := by
    simp [FileSystem.empty, TextOnly, files]
  have hresume (resume : Resume) : TextOnly (fileDraft (Draft.ofResume resume)).1.root := by
    rintro ⟨path, content⟩ hfound
    have hwalk : (String.intercalate "/" path, content) ∈ walk resume.entries :=
      List.mem_map.mpr ⟨(path, content), hfound, rfl⟩
    rw [Resume.walk_entries, contents, List.mem_map] at hwalk
    obtain ⟨sheet, -, heq⟩ := hwalk
    exact ⟨sheet.2, (congrArg Prod.snd heq).symm⟩
  cases document with
  | missing => exact hempty
  | raw value =>
      rw [file]
      split
      · exact hresume _
      · exact hempty
  | draft draft =>
      obtain ⟨resume, rfl⟩ := h
      exact hresume resume

/-- **A résumé is filed whole.** There is nothing to report, and the current directory is the root.
The files of the tree are those of the listing, one for each part that the résumé gives, in the same
order; no two of them have one path, and no directory holds a name twice. -/
theorem walk_file_ofResume (resume : Resume) :
    (ofResume resume).file.2 = [] ∧ (ofResume resume).file.1.cwd = [] ∧
    walk (ofResume resume).file.1.root = contents resume.listing ∧
    (resume.listing.map (·.1)).Nodup ∧ Unambiguous (ofResume resume).file.1.root := by
  have hfile : (ofResume resume).file = (⟨resume.entries, []⟩, []) := rfl
  have hunambiguous : Unambiguous resume.entries := by
    rw [Resume.entries_eq]
    exact (tidy_rootEntries ..).unambiguous
  have hslash : ∀ name ∈ namesWithin resume.entries, '/' ∉ name.toList := fun name hname =>
    (isSegment_of_mem_namesWithin (ofResume resume) name hname).notMem (by decide)
  have hpaths : (walk resume.entries).map (·.1) = resume.listing.map (·.1) := by
    rw [Resume.walk_entries, contents, List.map_map]
    rfl
  rw [hfile]
  exact ⟨rfl, rfl, resume.walk_entries, hpaths ▸ nodup_walk hunambiguous hslash, hunambiguous⟩

end Document

end VitaeShell
