import VitaeShell.FileSystem
import VitaeShell.Proofs.Json.Number
import VitaeShell.Proofs.Tree
import VitaeShell.Text.Lines

/-!
# Places in a file system

A path is followed by taking one directory after the other (`Entries.Leads`), which is what
`Entries.find?` does. What holds of every file of a tree holds of every file below a place in it
(`Leads.forall_files`); in this way the kind of the contents passes from the root to the current
directory.

## Main results

* `find?_eq_some_iff`: a search finds a place exactly if the path leads there.
* `Leads.mem_files`: a file below a place is a file of the tree, further down.
* `enter_eq_ok_iff`: moving succeeds exactly if a directory stands where the path leads, and then
  nothing but the current directory changes.
-/

namespace VitaeShell

namespace Entries

/-! ### Following a path -/

/-- A path **leads** from one directory to another if each segment in turn names a directory in the
directory before it, and the last one is reached. -/
inductive Leads : Entries → Path → Entries → Prop
  | arrived (place : Entries) : Leads place [] place
  | down {entries below place : Entries} {segment : String} {rest : Path} :
      entries.lookup segment = some (.dir below) → Leads below rest place →
      Leads entries (segment :: rest) place

/-- Following a path finds a place exactly if the path leads there. -/
theorem find?_eq_some_iff {entries place : Entries} {path : Path} :
    entries.find? path = some place ↔ Leads entries path place := by
  constructor
  · intro h
    induction path generalizing entries with
    | nil =>
        rw [find?, Option.some.injEq] at h
        subst h
        exact .arrived entries
    | cons segment rest ih =>
        rw [find?] at h
        split at h
        · next below hsegment => exact .down hsegment (ih h)
        · cases h
  · intro h
    induction h with
    | arrived place => rfl
    | down hsegment _ ih => rw [find?, hsegment]; exact ih

/-- A path in two parts is followed one part after the other. -/
theorem find?_append (entries : Entries) (path more : Path) :
    entries.find? (path ++ more) = (entries.find? path).bind fun place => place.find? more := by
  induction path generalizing entries with
  | nil => rfl
  | cons segment rest ih =>
      rw [List.cons_append, find?, find?]
      split
      · exact ih _
      · rfl

/-- The names below a place are names of the tree. -/
theorem Leads.namesWithin_subset {entries place : Entries} {path : Path}
    (h : Leads entries path place) : namesWithin place ⊆ namesWithin entries := by
  induction h with
  | arrived place => exact List.Subset.refl _
  | down hsegment _ ih => exact List.Subset.trans ih (namesWithin_subset_of_lookup hsegment)

/-! ### Files -/

/-- The files of a node that a name stands for are files of the directory, below that name. -/
theorem mem_files_of_lookup {entries : Entries} {name : String} {node : Node} {path : Path}
    {content : Json} (h : entries.lookup name = some node)
    (hfound : (path, content) ∈ nodeFiles node) : (name :: path, content) ∈ files entries := by
  induction entries with
  | nil => cases h
  | cons entry rest ih =>
      obtain ⟨other, first⟩ := entry
      rw [files, List.mem_append, List.mem_map]
      rw [List.lookup_cons] at h
      by_cases hname : name = other
      · subst hname
        obtain rfl : first = node := by simpa using h
        exact .inl ⟨(path, content), hfound, rfl⟩
      · rw [beq_eq_false_iff_ne.mpr hname] at h
        exact .inr (ih h)

/-- The files below a place are files of the tree, below the path to that place. -/
theorem Leads.mem_files {entries place : Entries} {path below : Path} {content : Json}
    (h : Leads entries path place) (hfound : (below, content) ∈ files place) :
    (path ++ below, content) ∈ files entries := by
  induction h with
  | arrived place => exact hfound
  | down hsegment _ ih =>
      rw [List.cons_append]
      exact mem_files_of_lookup hsegment (by rw [nodeFiles]; exact ih hfound)

/-- What holds of every file of a tree holds of every file below a place. -/
theorem Leads.forall_files {entries place : Entries} {path : Path} {P : Json → Prop}
    (h : Leads entries path place) (hall : ∀ found ∈ files entries, P found.2) :
    ∀ found ∈ files place, P found.2 := by
  rintro ⟨below, content⟩ hfound
  exact hall (path ++ below, content) (h.mem_files hfound)

/-- What holds of every file of a directory holds of a file that stands in it. -/
theorem forall_files_of_lookup {entries : Entries} {name : String} {content : Json}
    {P : Json → Prop} (h : entries.lookup name = some (.file content))
    (hall : ∀ found ∈ files entries, P found.2) : P content :=
  hall ([name], content) (mem_files_of_lookup h (by simp [nodeFiles]))

/-- Files that are listed with their texts hold text. -/
theorem textOnly_of_files_eq {entries : Entries} (texts : List (Path × String))
    (h : files entries = texts.map fun file => (file.1, .text file.2)) : TextOnly entries := by
  intro found hfound
  rw [h] at hfound
  obtain ⟨file, -, rfl⟩ := List.mem_map.mp hfound
  exact ⟨file.2, rfl⟩

/-- Every file holds text, and the number of its lines is a numeral that can be read. Only a text of
more characters than any memory has places could break the second part. -/
def Legible (entries : Entries) : Prop :=
  ∀ found ∈ files entries, ∃ content, found.2 = .text content ∧
    Json.IsReadable (Text.lines content).length

/-- Files that can be shown hold text. -/
theorem Legible.textOnly {entries : Entries} (h : entries.Legible) : TextOnly entries := by
  intro found hfound
  obtain ⟨content, hcontent, -⟩ := h found hfound
  exact ⟨content, hcontent⟩

end Entries

namespace FileSystem

/-! ### The current directory -/

/-- The current directory has entries exactly if its path leads to them. -/
theorem here_eq_ok_iff {fs : FileSystem} {entries : Entries} :
    fs.here = .ok entries ↔ fs.here? = some entries := by
  rw [here]
  cases fs.here? <;> simp

/-- Without a current directory there is nothing to answer from. -/
theorem here_of_here?_eq_none {fs : FileSystem} (h : fs.here? = none) : fs.here = .error .lost := by
  rw [here, h]

/-- Whether a path leads somewhere is what the relation says. -/
theorem here?_eq_some_iff {fs : FileSystem} {entries : Entries} :
    fs.here? = some entries ↔ Entries.Leads fs.root fs.cwd entries :=
  Entries.find?_eq_some_iff

/-- The names in the current directory are names of the tree. -/
theorem names_subset_namesWithin {fs : FileSystem} {names : List String}
    (h : fs.names = .ok names) : names ⊆ Entries.namesWithin fs.root := by
  rw [FileSystem.names] at h
  split at h
  · next entries hhere =>
      obtain rfl := Except.ok.inj h
      have hleads := here?_eq_some_iff.mp (here_eq_ok_iff.mp hhere)
      exact List.Subset.trans (Entries.names_subset_namesWithin entries) hleads.namesWithin_subset
  · cases h

/-- What holds of every file of the tree holds of every file below the current directory. -/
theorem forall_files_here {fs : FileSystem} {entries : Entries} {P : Json → Prop}
    (h : fs.here? = some entries) (hall : ∀ found ∈ Entries.files fs.root, P found.2) :
    ∀ found ∈ Entries.files entries, P found.2 :=
  (here?_eq_some_iff.mp h).forall_files hall

/-- All files in the current directory hold text, if all files of the tree do. -/
theorem textOnly_here {fs : FileSystem} {entries : Entries} (hfs : Entries.TextOnly fs.root)
    (h : fs.here? = some entries) : Entries.TextOnly entries :=
  forall_files_here (P := fun content => ∃ text, content = .text text) h hfs

/-- All files in the current directory can be shown, if all files of the tree can. -/
theorem legible_here {fs : FileSystem} {entries : Entries} (hfs : Entries.Legible fs.root)
    (h : fs.here? = some entries) : Entries.Legible entries :=
  forall_files_here (P := fun content => ∃ text, content = .text text ∧
    Json.IsReadable (Text.lines text).length) h hfs

/-- Moving succeeds exactly if a directory stands where the path leads, and changes nothing but the
current directory. -/
theorem enter_eq_ok_iff {fs moved : FileSystem} {path : String} :
    fs.enter path = .ok moved ↔
      (∃ place, Entries.Leads fs.root (Path.resolve fs.cwd path) place) ∧
        moved = ⟨fs.root, Path.resolve fs.cwd path⟩ := by
  simp only [← Entries.find?_eq_some_iff]
  rw [enter]
  cases fs.root.find? (Path.resolve fs.cwd path) <;> simp [eq_comm]

/-- Where no directory stands, moving is refused in the words of the path. -/
theorem enter_eq_error {fs : FileSystem} {path : String} {fault : PathFault}
    (h : fs.enter path = .error fault) : fault = .noDirectory path := by
  rw [enter] at h
  split at h <;> simp_all

/-- A file is read exactly if it stands in the current directory with something in it. -/
theorem fileContent_eq_ok_iff {fs : FileSystem} {name : String} {content : Json} :
    fs.fileContent name = .ok content ↔
      ∃ entries, fs.here? = some entries ∧ entries.lookup name = some (.file content) ∧
        content.isSubstantial = true := by
  constructor
  · intro h
    rw [fileContent] at h
    rcases hhere : fs.here? with _ | entries
    · rw [here_of_here?_eq_none hhere] at h
      cases h
    · rw [here_eq_ok_iff.mpr hhere] at h
      refine ⟨entries, rfl, ?_⟩
      simp only at h
      split at h
      · next found hfound =>
          split at h
          · next hsubstantial =>
              cases h
              exact ⟨hfound, hsubstantial⟩
          · cases h
      · cases h
  · rintro ⟨entries, hhere, hlookup, hsubstantial⟩
    simp only [fileContent, here_eq_ok_iff.mpr hhere, hlookup, if_pos hsubstantial]

/-- What holds of every file of the tree holds of a file that is read. -/
theorem forall_files_fileContent {fs : FileSystem} {name : String} {content : Json}
    {P : Json → Prop} (h : fs.fileContent name = .ok content)
    (hall : ∀ found ∈ Entries.files fs.root, P found.2) : P content := by
  obtain ⟨entries, hhere, hlookup, -⟩ := fileContent_eq_ok_iff.mp h
  exact Entries.forall_files_of_lookup hlookup (forall_files_here hhere hall)

/-- In a tree of texts, what is read is text. -/
theorem exists_text_of_fileContent {fs : FileSystem} {name : String} {content : Json}
    (hfs : Entries.TextOnly fs.root) (h : fs.fileContent name = .ok content) :
    ∃ text, content = .text text :=
  forall_files_fileContent (P := fun content => ∃ text, content = .text text) h hfs

/-- A file is refused for want of a current directory, or in the words of its name. -/
theorem fileContent_eq_error {fs : FileSystem} {name : String} {fault : PathFault}
    (h : fs.fileContent name = .error fault) :
    fs.here? = none ∧ fault = .lost ∨ fault = .noFile name := by
  rw [fileContent] at h
  rcases hhere : fs.here? with _ | entries
  · rw [here_of_here?_eq_none hhere] at h
    cases h
    exact .inl ⟨rfl, rfl⟩
  · rw [here_eq_ok_iff.mpr hhere] at h
    refine .inr ?_
    simp only at h
    split at h
    · split at h <;> simp_all
    · simp_all

end FileSystem

end VitaeShell
