import VitaeShell.Proofs.Path.Resolution
import VitaeShell.Proofs.Resume.Filing
import VitaeShell.Proofs.Tree.Place

/-!
# The directories of a résumé

Six directories have names of their own, and each position has one that is named for its company and
its number. Whatever the company is called, and in whatever script, this name is safe and leads down
by one directory: the underscore in front of the number keeps it from being empty or made of points.

## Main results

* `Document.mem_directories_cases`: the names of the directories of any document.
* `Document.isStep_of_mem_directories`: each of them leads down by one directory.
-/

namespace VitaeShell

open Entries

/-- Texts bring no directories. -/
theorem directoriesWithin_texts (sheets : List (String × String)) :
    directoriesWithin (texts sheets) = [] := by
  rw [directoriesWithin_eq_flatMap, texts, List.flatMap_map]
  simp [nodeDirectories, Node.ofText]

/-- There is one directory for each job, and none further down. -/
theorem directoriesWithin_experienceEntries (jobs : List Experience) :
    directoriesWithin (experienceEntries jobs) =
      jobs.zipIdx.map fun (job, i) => job.directoryName (i + 1) := by
  rw [directoriesWithin_eq_flatMap, experienceEntries, List.flatMap_map, List.map_eq_flatMap]
  simp [nodeDirectories, directoriesWithin_texts]

/-- The only directory of the personal information is that of the contact values. -/
theorem PersonalInfo.directoriesWithin_entries (info : PersonalInfo) :
    directoriesWithin info.entries = ["contact"] := by
  have htexts := directoriesWithin_texts info.sheets
  rw [directoriesWithin_eq_flatMap] at htexts ⊢
  rw [entries, List.flatMap_append, htexts]
  simp [nodeDirectories, directoriesWithin_texts]

/-- **The directories of a résumé.** -/
theorem directoriesWithin_rootEntries (info : PersonalInfo) (about : Json) (jobs : List Experience)
    (skills : Skills) (projects : List Project) (education : Education) :
    directoriesWithin (rootEntries info about jobs skills projects education) =
      "personalInfo" :: "contact" :: "experience" ::
        (jobs.zipIdx.map fun (job, i) => job.directoryName (i + 1)) ++
        ["skills", "projects", "education"] := by
  simp only [rootEntries, directoriesWithin, nodeDirectories, info.directoriesWithin_entries,
    directoriesWithin_experienceEntries, directoriesWithin_texts]
  simp

namespace Document

/-- **The names of the directories of any document.** -/
theorem mem_directories_cases {document : Document} {name : String}
    (h : name ∈ directoriesWithin document.file.1.root) :
    name ∈ ["personalInfo", "contact", "experience", "skills", "projects", "education"] ∨
      ∃ (job : Experience) (number : Nat), name = job.directoryName number := by
  obtain hroot | ⟨info, about, jobs, skills, projects, education, hroot⟩ := document.root_cases
  · rw [hroot] at h
    cases h
  · rw [hroot, directoriesWithin_rootEntries] at h
    by_cases hjob : name ∈ jobs.zipIdx.map fun (job, i) => job.directoryName (i + 1)
    · obtain ⟨⟨job, i⟩, -, rfl⟩ := List.mem_map.mp hjob
      exact .inr ⟨job, i + 1, rfl⟩
    · left
      simpa only [List.cons_append, List.mem_cons, List.mem_append, hjob, false_or] using h

/-- **Every name of a directory leads down by one directory.** -/
theorem isStep_of_mem_directories {document : Document} {name : String}
    (h : name ∈ directoriesWithin document.file.1.root) : Path.IsStep name := by
  rcases mem_directories_cases h with hfixed | ⟨job, number, rfl⟩
  · have hletter : ∀ name ∈ ["personalInfo", "contact", "experience", "skills", "projects",
        "education"], name.toList.any (· ≠ '.') = true ∧ '/' ∉ name.toList := by decide
    obtain ⟨hsome, hslash⟩ := hletter name hfixed
    obtain ⟨c, hc, hpoint⟩ := List.any_eq_true.mp hsome
    exact .of_mem hc (by simpa using hpoint) hslash
  · have hsegment := job.isSegment_directoryName number
    have hunderscore : '_' ∈ (job.directoryName number).toList := by
      simp [Experience.directoryName]
    exact .of_mem hunderscore (by decide) (hsegment.notMem (by decide))

/-- Every directory of a document has a name that is safe. -/
theorem isSegment_of_mem_directories {document : Document} {name : String}
    (h : name ∈ directoriesWithin document.file.1.root) : IsSegment name := by
  rcases mem_directories_cases h with hfixed | ⟨job, number, rfl⟩
  · have hsegment : ∀ name ∈ ["personalInfo", "contact", "experience", "skills", "projects",
        "education"], IsSegment name := by decide
    exact hsegment name hfixed
  · exact job.isSegment_directoryName number

end Document

end VitaeShell
