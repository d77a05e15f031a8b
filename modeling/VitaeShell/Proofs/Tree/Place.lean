import VitaeShell.Proofs.FileSystem
import VitaeShell.Proofs.Table

/-!
# Places in a tree

A path leads down to a file by the names of directories and at last that of the file
(`Entries.Holds`), and two paths come in the order in which their directories hold the first names
in which they differ (`Entries.Before`). Both are said without a walk through the tree. In a tree in
which no directory holds a name twice, the list of files is the walk that they describe: it holds
the files that paths lead to and no others, in the order of their paths.

## Main results

* `Leads.mem_directoriesWithin`: a path to a directory is made of names of directories.
* `mem_files_iff`: a file is listed with a path exactly if the path leads to it.
* `pairwise_files`: the files are listed in the order of their paths.
* `Before.ne`: of two paths in order neither is the other.
-/

namespace VitaeShell.Entries

/-! ### Trees without a name twice -/

/-- The names at the top of an unambiguous tree are distinct. -/
theorem Unambiguous.distinct {entries : Entries} (h : Unambiguous entries) :
    Table.Distinct entries :=
  (unambiguous_iff.mp h).1

/-- A directory in an unambiguous one is unambiguous. -/
theorem Unambiguous.of_lookup {entries below : Entries} {name : String} (h : Unambiguous entries)
    (hlookup : entries.lookup name = some (.dir below)) : Unambiguous below := by
  have hmem := (Table.lookup_eq_some_iff_mem h.distinct).mp hlookup
  exact (unambiguous_iff.mp h).2 _ hmem

/-- Where a path leads in an unambiguous tree, the tree is unambiguous too. -/
theorem Leads.unambiguous {entries place : Entries} {path : Path} (h : Leads entries path place)
    (hentries : Unambiguous entries) : Unambiguous place := by
  induction h with
  | arrived place => exact hentries
  | down hsegment _ ih => exact ih (hentries.of_lookup hsegment)

/-! ### Paths to directories -/

mutual

/-- The name of a node and the names below it, as far as they are names of directories. -/
def nodeDirectories (name : String) : Node → List String
  | .file _ => []
  | .dir entries => name :: directoriesWithin entries

/-- The names of the directories in a directory and in all directories below it. -/
def directoriesWithin : List (String × Node) → List String
  | [] => []
  | (name, node) :: rest => nodeDirectories name node ++ directoriesWithin rest

end

/-- The directories in a tree are those that come with each of its entries. -/
theorem directoriesWithin_eq_flatMap (entries : Entries) :
    directoriesWithin entries = entries.flatMap fun entry => nodeDirectories entry.1 entry.2 := by
  induction entries with
  | nil => rfl
  | cons entry rest ih =>
      obtain ⟨name, node⟩ := entry
      rw [directoriesWithin, ih, List.flatMap_cons]

/-- A path that leads to a directory is made of names of directories. -/
theorem Leads.mem_directoriesWithin {entries place : Entries} {path : Path}
    (h : Leads entries path place) : ∀ name ∈ path, name ∈ directoriesWithin entries := by
  induction h with
  | arrived place => simp
  | @down entries below place segment rest hsegment _ ih =>
      obtain ⟨before, after, rfl, -⟩ := List.lookup_eq_some_iff.mp hsegment
      intro name hname
      rw [directoriesWithin_eq_flatMap, List.mem_flatMap]
      refine ⟨(segment, .dir below), by simp, ?_⟩
      rw [nodeDirectories, List.mem_cons]
      rcases List.mem_cons.mp hname with rfl | hname
      · exact .inl rfl
      · exact .inr (ih name hname)

/-! ### Paths to files -/

/-- A path **holds** a content in a directory if each of its names but the last one leads to a
directory in the one before it, and the last one to a file with this content. -/
inductive Holds : Entries → Path → Json → Prop
  | file {entries : Entries} {name : String} {content : Json} :
      entries.lookup name = some (.file content) → Holds entries [name] content
  | down {entries below : Entries} {name : String} {rest : Path} {content : Json} :
      entries.lookup name = some (.dir below) → Holds below rest content →
      Holds entries (name :: rest) content

/-- A path to a file starts with a name of the directory. -/
theorem Holds.exists_cons {entries : Entries} {path : Path} {content : Json}
    (h : Holds entries path content) :
    ∃ name rest, path = name :: rest ∧ name ∈ Table.names entries := by
  cases h with
  | file hlookup => exact ⟨_, _, rfl, Table.mem_names_of_lookup hlookup⟩
  | down hlookup _ => exact ⟨_, _, rfl, Table.mem_names_of_lookup hlookup⟩

/-- Another entry in front is in the way of no path, unless it has the name that the path starts
with. -/
theorem Holds.cons {entries : Entries} {path : Path} {content : Json}
    (h : Holds entries path content) {other : String} (hother : other ∉ Table.names entries)
    (node : Node) : Holds ((other, node) :: entries) path content := by
  cases h with
  | file hlookup =>
      have hne := ne_of_mem_of_not_mem (Table.mem_names_of_lookup hlookup) hother
      exact .file ((Table.lookup_cons_of_ne hne node _).trans hlookup)
  | down hlookup hrest =>
      have hne := ne_of_mem_of_not_mem (Table.mem_names_of_lookup hlookup) hother
      exact .down ((Table.lookup_cons_of_ne hne node _).trans hlookup) hrest

/-- A file that a path leads to is listed. -/
theorem Holds.mem_files {entries : Entries} {path : Path} {content : Json}
    (h : Holds entries path content) : (path, content) ∈ files entries := by
  induction h with
  | file hlookup => exact mem_files_of_lookup hlookup (by simp [nodeFiles])
  | down hlookup _ ih => exact mem_files_of_lookup hlookup (by rwa [nodeFiles])

mutual

/-- `holds_of_mem_files` for the files of a node under its name. -/
theorem holds_of_mem_nodeFiles {node : Node} {path : Path} {content : Json}
    (hnode : NodeUnambiguous node) (h : (path, content) ∈ nodeFiles node) (name : String)
    (rest : Entries) : Holds ((name, node) :: rest) (name :: path) content := by
  cases node with
  | file value =>
      rw [nodeFiles, List.mem_singleton] at h
      obtain ⟨rfl, rfl⟩ := Prod.mk.inj h
      exact .file List.lookup_cons_self
  | dir below =>
      rw [nodeFiles] at h
      exact .down List.lookup_cons_self (holds_of_mem_files hnode h)

/-- The path of a listed file leads to it. -/
theorem holds_of_mem_files {entries : Entries} {path : Path} {content : Json}
    (hentries : Unambiguous entries) (h : (path, content) ∈ files entries) :
    Holds entries path content := by
  cases entries with
  | nil => simp [files] at h
  | cons entry rest =>
      obtain ⟨name, node⟩ := entry
      rw [Unambiguous] at hentries
      obtain ⟨hname, hnode, hrest⟩ := hentries
      rw [files, List.mem_append, List.mem_map] at h
      rcases h with ⟨⟨below, found⟩, hbelow, heq⟩ | h
      · obtain ⟨rfl, rfl⟩ := Prod.mk.inj heq
        exact holds_of_mem_nodeFiles hnode hbelow name rest
      · exact (holds_of_mem_files hrest h).cons hname node

end

/-- **The files of a tree are those that paths lead to.** -/
theorem mem_files_iff {entries : Entries} (h : Unambiguous entries) {path : Path}
    {content : Json} : (path, content) ∈ files entries ↔ Holds entries path content :=
  ⟨holds_of_mem_files h, Holds.mem_files⟩

/-! ### The order of paths -/

/-- A path comes **before** another in a directory if, where they part, the name in the first path
stands earlier than the one in the second. -/
inductive Before : Entries → Path → Path → Prop
  | apart {entries : Entries} {name other : String} (rest others : Path) :
      [name, other].Sublist (Table.names entries) → Before entries (name :: rest) (other :: others)
  | down {entries below : Entries} {name : String} {rest others : Path} :
      entries.lookup name = some (.dir below) → Before below rest others →
      Before entries (name :: rest) (name :: others)

/-- Of two paths in order neither is the other. -/
theorem Before.ne {entries : Entries} {path other : Path} (h : Before entries path other)
    (hentries : Unambiguous entries) : path ≠ other := by
  induction h with
  | apart rest others hnames =>
      have hne := hentries.distinct.sublist hnames
      rintro heq
      simp [(List.cons.inj heq).1] at hne
  | down hlookup _ ih =>
      intro heq
      exact ih (hentries.of_lookup hlookup) (List.cons.inj heq).2

/-- Paths keep their order behind another entry, if its name is a new one. -/
theorem Before.cons {entries : Entries} {path others : Path} (h : Before entries path others)
    {other : String} (hother : other ∉ Table.names entries) (node : Node) :
    Before ((other, node) :: entries) path others := by
  cases h with
  | apart rest others hnames => exact .apart rest others (hnames.cons other)
  | down hlookup hrest =>
      have hne := ne_of_mem_of_not_mem (Table.mem_names_of_lookup hlookup) hother
      exact .down ((Table.lookup_cons_of_ne hne node _).trans hlookup) hrest

mutual

/-- `pairwise_files` for the files of a node under its name. -/
theorem pairwise_nodeFiles {node : Node} (h : NodeUnambiguous node) (name : String)
    (rest : Entries) :
    (nodeFiles node).Pairwise fun found other =>
      Before ((name, node) :: rest) (name :: found.1) (name :: other.1) := by
  cases node with
  | file content => simp [nodeFiles]
  | dir below =>
      rw [nodeFiles]
      exact (pairwise_files h).imp fun hbefore => .down List.lookup_cons_self hbefore

/-- **The files of a tree come in the order of their paths.** -/
theorem pairwise_files {entries : Entries} (h : Unambiguous entries) :
    (files entries).Pairwise fun found other => Before entries found.1 other.1 := by
  cases entries with
  | nil => simp [files]
  | cons entry rest =>
      obtain ⟨name, node⟩ := entry
      rw [Unambiguous] at h
      obtain ⟨hname, hnode, hrest⟩ := h
      rw [files, List.pairwise_append, List.pairwise_map]
      refine ⟨pairwise_nodeFiles hnode name rest,
        (pairwise_files hrest).imp fun hbefore => hbefore.cons hname node, ?_⟩
      -- whatever lies below the first name comes before whatever lies below the others
      intro found hfound other hother
      obtain ⟨below, -, rfl⟩ := List.mem_map.mp hfound
      obtain ⟨first, others, heq, hfirst⟩ := exists_cons_of_mem_files hother
      rw [heq]
      refine .apart below.1 others ?_
      exact (List.singleton_sublist.mpr hfirst).cons_cons name

end

end VitaeShell.Entries
