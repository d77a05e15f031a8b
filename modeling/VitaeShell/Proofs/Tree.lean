import Mathlib.Data.List.Nodup
import VitaeShell.Proofs.Path
import VitaeShell.Tree

/-!
# Names in a tree

A node has no name of its own: its name is the one under which its directory holds it. No name is
lost as long as no directory holds one twice, at any depth (`Entries.Unambiguous`); then every file
has a path of its own, and if no name holds a slash, also a path of its own as a text
(`Entries.walk`). The trees that résumés are filed as are of this kind, with safe names throughout
(`Entries.Tidy`).

## Main results

* `Entries.nodup_files`: in an unambiguous tree no two files have one path.
* `Entries.nodup_walk`: nor have they one path text, if no name holds a slash.
* `Entries.mem_namesWithin_of_mem_files`: the segments of the paths are names of the tree.
* `Entries.walk_cons_file`, `Entries.walk_cons_dir`: the walk, one entry after the other.
-/

namespace VitaeShell

/-- A table whose names are paths, as seen from above the directory they start in. -/
def within {α : Type} (directory : String) (table : List (String × α)) : List (String × α) :=
  table.map fun entry => (directory ++ "/" ++ entry.1, entry.2)

namespace Entries

/-- Every file below a directory with its path as a text, in the order of a walk that goes into each
directory as it comes. -/
def walk (entries : Entries) : List (String × Json) :=
  (files entries).map fun found => (String.intercalate "/" found.1, found.2)

mutual

/-- The names below a node. -/
def nodeNames : Node → List String
  | .file _ => []
  | .dir entries => namesWithin entries

/-- The names in a directory and in all directories below it. -/
def namesWithin : List (String × Node) → List String
  | [] => []
  | (name, node) :: rest => name :: (nodeNames node ++ namesWithin rest)

end

mutual

/-- No directory below a node holds a name twice. -/
def NodeUnambiguous : Node → Prop
  | .file _ => True
  | .dir entries => Unambiguous entries

/-- Neither a directory nor any below it holds a name twice. -/
def Unambiguous : List (String × Node) → Prop
  | [] => True
  | (name, node) :: rest =>
    name ∉ Table.names rest ∧ NodeUnambiguous node ∧ Unambiguous rest

end

/-! ### Files and names -/

/-- A path to a file starts with a name that the directory holds. -/
theorem exists_cons_of_mem_files {entries : Entries} {path : Path} {content : Json}
    (h : (path, content) ∈ files entries) :
    ∃ name below, path = name :: below ∧ name ∈ Table.names entries := by
  induction entries with
  | nil => simp [files] at h
  | cons entry rest ih =>
      obtain ⟨name, node⟩ := entry
      rw [files, List.mem_append, List.mem_map] at h
      rcases h with ⟨⟨below, found⟩, -, heq⟩ | h
      · obtain ⟨rfl, rfl⟩ := Prod.mk.inj heq
        exact ⟨name, below, rfl, List.mem_cons_self⟩
      · obtain ⟨other, below, rfl, hother⟩ := ih h
        exact ⟨other, below, rfl, List.mem_cons_of_mem _ hother⟩

mutual

/-- The path of a file goes by names in the tree. -/
theorem mem_nodeNames_of_mem_nodeFiles {node : Node} {path : Path} {content : Json}
    (h : (path, content) ∈ nodeFiles node) : ∀ segment ∈ path, segment ∈ nodeNames node := by
  cases node with
  | file value =>
      rw [nodeFiles, List.mem_singleton] at h
      obtain ⟨rfl, -⟩ := Prod.mk.inj h
      simp
  | dir entries =>
      rw [nodeNames]
      exact mem_namesWithin_of_mem_files h

/-- The segments of the paths to files are names of the tree. -/
theorem mem_namesWithin_of_mem_files {entries : Entries} {path : Path} {content : Json}
    (h : (path, content) ∈ files entries) : ∀ segment ∈ path, segment ∈ namesWithin entries := by
  cases entries with
  | nil => simp [files] at h
  | cons entry rest =>
      obtain ⟨name, node⟩ := entry
      rw [files, List.mem_append, List.mem_map] at h
      intro segment hsegment
      rw [namesWithin, List.mem_cons, List.mem_append]
      rcases h with ⟨⟨below, found⟩, hbelow, heq⟩ | h
      · obtain ⟨rfl, rfl⟩ := Prod.mk.inj heq
        rcases List.mem_cons.mp hsegment with rfl | hsegment
        · exact .inl rfl
        · exact .inr (.inl (mem_nodeNames_of_mem_nodeFiles hbelow segment hsegment))
      · exact .inr (.inr (mem_namesWithin_of_mem_files h segment hsegment))

end

/-- The names in a directory are names of the tree. -/
theorem names_subset_namesWithin (entries : Entries) :
    Table.names entries ⊆ namesWithin entries := by
  induction entries with
  | nil => exact List.Subset.refl _
  | cons entry rest ih =>
      obtain ⟨name, node⟩ := entry
      intro other hother
      rw [namesWithin, List.mem_cons, List.mem_append]
      rcases List.mem_cons.mp hother with rfl | hother
      · exact .inl rfl
      · exact .inr (.inr (ih hother))

/-- The names below a directory are names below the one that holds it. -/
theorem namesWithin_subset_of_lookup {entries below : Entries} {name : String}
    (h : entries.lookup name = some (.dir below)) : namesWithin below ⊆ namesWithin entries := by
  induction entries with
  | nil => cases h
  | cons entry rest ih =>
      obtain ⟨other, node⟩ := entry
      intro inner hinner
      rw [namesWithin, List.mem_cons, List.mem_append]
      rw [List.lookup_cons] at h
      split at h
      · obtain rfl : node = .dir below := Option.some.inj h
        exact .inr (.inl hinner)
      · exact .inr (.inr (ih h hinner))

/-- A tree is unambiguous if its names are distinct and what is below each of them is. -/
theorem unambiguous_iff {entries : Entries} :
    Unambiguous entries ↔
      Table.Distinct entries ∧ ∀ entry ∈ entries, NodeUnambiguous entry.2 := by
  induction entries with
  | nil => simp [Unambiguous, Table.Distinct, Table.names]
  | cons entry rest ih =>
      obtain ⟨name, node⟩ := entry
      rw [Unambiguous, ih, Table.Distinct, Table.Distinct, Table.names, Table.names, List.map_cons,
        List.nodup_cons, List.forall_mem_cons]
      tauto

/-- What holds of all names in a tree holds of those at its top and those below. -/
theorem forall_mem_namesWithin_iff {entries : Entries} {P : String → Prop} :
    (∀ name ∈ namesWithin entries, P name) ↔
      ∀ entry ∈ entries, P entry.1 ∧ ∀ name ∈ nodeNames entry.2, P name := by
  induction entries with
  | nil => simp [namesWithin]
  | cons entry rest ih =>
      obtain ⟨name, node⟩ := entry
      rw [namesWithin, List.forall_mem_cons, List.forall_mem_append, ih, List.forall_mem_cons,
        and_assoc]

/-! ### Paths of their own -/

mutual

/-- No two files below an unambiguous entry have the same path. -/
theorem nodup_nodeFiles {node : Node} (h : NodeUnambiguous node) :
    ((nodeFiles node).map (·.1)).Nodup := by
  cases node with
  | file value => simp [nodeFiles]
  | dir entries =>
      rw [nodeFiles]
      exact nodup_files h

/-- **In an unambiguous tree no two files have one path.** -/
theorem nodup_files {entries : Entries} (h : Unambiguous entries) :
    ((files entries).map (·.1)).Nodup := by
  cases entries with
  | nil => simp [files]
  | cons entry rest =>
      obtain ⟨name, node⟩ := entry
      rw [Unambiguous] at h
      obtain ⟨hname, hnode, hrest⟩ := h
      rw [files, List.map_append, List.map_map, List.nodup_append]
      refine ⟨?_, nodup_files hrest, ?_⟩
      · -- the paths below the node, each behind its name
        have hbelow := (nodup_nodeFiles hnode).map (List.cons_injective (a := name))
        rwa [List.map_map] at hbelow
      · rintro path hpath other hother rfl
        obtain ⟨found, -, rfl⟩ := List.mem_map.mp hpath
        obtain ⟨⟨path, content⟩, hmem, heq⟩ := List.mem_map.mp hother
        obtain ⟨first, below, rfl, hfirst⟩ := exists_cons_of_mem_files hmem
        simp only [Function.comp_apply, List.cons.injEq] at heq
        exact hname (heq.1 ▸ hfirst)

end

/-- **No two files have one path text**, in an unambiguous tree of names without slashes. -/
theorem nodup_walk {entries : Entries} (h : Unambiguous entries)
    (hslash : ∀ name ∈ namesWithin entries, '/' ∉ name.toList) :
    ((walk entries).map (·.1)).Nodup := by
  have hpath : ∀ path ∈ (files entries).map (·.1),
      path ≠ [] ∧ ∀ segment ∈ path, '/' ∉ segment.toList := by
    intro path hpath
    obtain ⟨⟨path, content⟩, hmem, rfl⟩ := List.mem_map.mp hpath
    obtain ⟨name, below, hcons, -⟩ := exists_cons_of_mem_files hmem
    refine ⟨by simp [hcons], fun segment hsegment => ?_⟩
    exact hslash segment (mem_namesWithin_of_mem_files hmem segment hsegment)
  have hwalk : (walk entries).map (·.1) =
      ((files entries).map (·.1)).map (String.intercalate "/") := by
    simp [walk, Function.comp_def]
  rw [hwalk]
  refine List.Nodup.map_on ?_ (nodup_files h)
  intro p hp q hq heq
  exact Path.intercalate_injective (hpath p hp).1 (hpath q hq).1 (hpath p hp).2 (hpath q hq).2 heq

/-! ### The walk, one entry after the other -/

theorem walk_nil : walk [] = [] := rfl

/-- A file comes first if it stands first. -/
theorem walk_cons_file (name : String) (content : Json) (rest : Entries) :
    walk ((name, .file content) :: rest) = (name, content) :: walk rest := by
  simp [walk, files, nodeFiles]

/-- So do the files below a directory. -/
theorem walk_cons_dir (name : String) (entries rest : Entries) :
    walk ((name, .dir entries) :: rest) = within name (walk entries) ++ walk rest := by
  have hjoin : ∀ found ∈ files entries,
      String.intercalate "/" (name :: found.1) =
        name ++ "/" ++ String.intercalate "/" found.1 := by
    rintro ⟨path, content⟩ hfound
    obtain ⟨first, below, rfl, -⟩ := exists_cons_of_mem_files hfound
    exact String.intercalate_cons_cons
  rw [walk, files, nodeFiles, List.map_append, List.map_map, within, walk, List.map_map, walk]
  congr 1
  refine List.map_congr_left fun found hfound => ?_
  exact Prod.ext (hjoin found hfound) rfl

/-- The files of two lists of entries follow one another. -/
theorem walk_append (entries rest : Entries) :
    walk (entries ++ rest) = walk entries ++ walk rest := by
  induction entries with
  | nil => rfl
  | cons entry entries ih =>
      obtain ⟨name, node⟩ := entry
      cases node with
      | file content =>
          rw [List.cons_append, walk_cons_file, ih, walk_cons_file, List.cons_append]
      | dir below =>
          rw [List.cons_append, walk_cons_dir, ih, walk_cons_dir, List.append_assoc]

/-! ### Tidy trees -/

/-- No directory below a node holds a name twice, and all names below it are safe. -/
structure NodeTidy (node : Node) : Prop where
  unambiguous : NodeUnambiguous node
  isSegment : ∀ name ∈ nodeNames node, IsSegment name

/-- Neither a directory nor any below it holds a name twice, and all names are safe. -/
def Tidy (entries : Entries) : Prop :=
  NodeTidy (.dir entries)

theorem nodeTidy_file (content : Json) : NodeTidy (.file content) :=
  ⟨trivial, by simp [nodeNames]⟩

/-- A tree is tidy if its names are distinct and safe and what is below each of them is tidy. -/
theorem tidy_iff {entries : Entries} :
    Tidy entries ↔
      Table.Distinct entries ∧ ∀ entry ∈ entries, IsSegment entry.1 ∧ NodeTidy entry.2 := by
  constructor
  · rintro ⟨hunambiguous, hsegment⟩
    obtain ⟨hdistinct, hnodes⟩ := unambiguous_iff.mp hunambiguous
    refine ⟨hdistinct, fun entry hentry => ?_⟩
    obtain ⟨hname, hbelow⟩ := forall_mem_namesWithin_iff.mp hsegment entry hentry
    exact ⟨hname, hnodes entry hentry, hbelow⟩
  · rintro ⟨hdistinct, hentries⟩
    refine ⟨unambiguous_iff.mpr ⟨hdistinct, fun entry hentry => ?_⟩,
      forall_mem_namesWithin_iff.mpr fun entry hentry => ?_⟩
    · exact (hentries entry hentry).2.unambiguous
    · exact ⟨(hentries entry hentry).1, (hentries entry hentry).2.isSegment⟩

end Entries

end VitaeShell
