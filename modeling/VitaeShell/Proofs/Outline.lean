import VitaeShell.Proofs.Resume.Filing

/-!
# Reading a drawing

A drawing of a tree holds the names of its nodes and nothing else of them; how they lie in one
another is told by the branches in front of the names. All of it can be read off again
(`Outline.read`): a name begins farther to the right than the name of the directory that it is in,
and in the same column as the other names there. That takes names that are not empty and hold none
of the characters that branches are drawn with, such as the safe names that documents are filed
under (`WellNamed`).

Of two lines with a name the upper one is that of the directory, so a drawing is read from its end:
a line takes up what has been read below it, as far as that begins farther to the right
(`Outline.addLine`).

## Main results

* `foldr_addLine_draw`: reading the lines of a directory, whatever stands below them.
* `Document.wellNamed_root`: documents are filed under names of this kind.
* `read_drawing`: a drawing is read as what was drawn, and so determines it.
-/

namespace VitaeShell

/-! ### Outlines -/

/-- A node without the content of its files. -/
inductive Outline where
  | file
  | dir (entries : List (String × Outline))

namespace Outline

mutual

/-- The outline of a node. -/
def ofNode : Node → Outline
  | .file _ => .file
  | .dir entries => .dir (ofEntries entries)

/-- The outlines in a directory, by name and in order. -/
def ofEntries : List (String × Node) → List (String × Outline)
  | [] => []
  | (name, node) :: rest => (name, ofNode node) :: ofEntries rest

end

mutual

/-- The paths to the files of a node. -/
def nodePaths : Outline → List Path
  | .file => [[]]
  | .dir entries => paths entries

/-- The paths to the files below a directory, in the order of a walk that goes into each directory
as it comes. -/
def paths : List (String × Outline) → List Path
  | [] => []
  | (name, node) :: rest => (nodePaths node).map (name :: ·) ++ paths rest

end

/-! ### Reading -/

/-- The lines of a drawing; an empty text has none. -/
def lines (drawing : String) : List String :=
  if drawing = "" then [] else (drawing.toList.splitOn '\n').map String.ofList

/-- The column in which the name in a line begins. -/
def column (line : String) : Nat :=
  (line.toList.takeWhile (!isSegmentChar ·)).length

/-- The name in a line. -/
def name (line : String) : String :=
  String.ofList ((line.toList.dropWhile (!isSegmentChar ·)).takeWhile isSegmentChar)

/-- Whether a line is that of a directory. -/
def isDirLine (line : String) : Bool :=
  line.toList.getLast? = some '/'

/-- Reads a line in front of what has been read below it, with the columns in which the names
begin. -/
def addLine (line : String) (below : List (Nat × String × Outline)) :
    List (Nat × String × Outline) :=
  let inside := below.takeWhile (column line < ·.1)
  (column line, name line, if isDirLine line then .dir (inside.map (·.2)) else .file) ::
    below.dropWhile (column line < ·.1)

/-- What a drawing shows. -/
def read (drawing : String) : List (String × Outline) :=
  ((lines drawing).foldr addLine []).map (·.2)

end Outline

namespace Entries

/-- The drawing of a directory as a text. -/
def drawing (entries : Entries) : String :=
  String.intercalate "\n" (draw "" entries)

/-- A tree is **well named** if no name in it is empty or holds a character that is not safe. -/
def WellNamed (entries : Entries) : Prop :=
  ∀ name ∈ namesWithin entries, name ≠ "" ∧ IsSegment name

end Entries

open Entries

namespace Outline

/-! ### Lines -/

/-- The line of a node. -/
def nodeLine (indent : String) (last : Bool) (name : String) (node : Node) : String :=
  indent ++ branch last ++ name ++ if node.isDir then "/" else ""

/-- A text is **bare** if it can stand in front of a name: none of its characters may be part of
one, and none ends a line. -/
def IsBare (text : String) : Prop :=
  ∀ c ∈ text.toList, isSegmentChar c = false ∧ c ≠ '\n'

instance (text : String) : Decidable (IsBare text) :=
  List.decidableBAll (fun c => isSegmentChar c = false ∧ c ≠ '\n') text.toList

/-- Two bare texts are bare together. -/
theorem IsBare.append {s t : String} (hs : IsBare s) (ht : IsBare t) : IsBare (s ++ t) := by
  intro c hc
  rw [String.toList_append, List.mem_append] at hc
  exact hc.elim (hs c) (ht c)

/-- A branch is bare. -/
theorem isBare_branch (last : Bool) : IsBare (branch last) := by
  cases last <;> decide

/-- So is a trunk. -/
theorem isBare_trunk (last : Bool) : IsBare (trunk last) := by
  cases last <;> decide

/-- A branch is four characters wide. -/
theorem length_append_branch (indent : String) (last : Bool) :
    (indent ++ branch last).length = indent.length + 4 := by
  cases last <;> rw [String.length_append] <;> rfl

/-- So is a trunk. -/
theorem length_append_trunk (indent : String) (last : Bool) :
    (indent ++ trunk last).length = indent.length + 4 := by
  cases last <;> rw [String.length_append] <;> rfl

/-- What follows the name in the line of a node. -/
def slashOf (node : Node) : List Char :=
  if node.isDir then ['/'] else []

/-- A directory is drawn node by node. -/
theorem draw_cons (indent name : String) (node : Node) (rest : Entries) :
    draw indent ((name, node) :: rest) =
      nodeLine indent rest.isEmpty name node ::
        (drawNode (indent ++ trunk rest.isEmpty) node ++ draw indent rest) := rfl

/-- The line of an entry is its indentation, its branch, its name and a slash for a directory. -/
theorem toList_nodeLine (indent : String) (last : Bool) (name : String) (node : Node) :
    (nodeLine indent last name node).toList =
      (indent ++ branch last).toList ++ (name.toList ++ slashOf node) := by
  rw [nodeLine, slashOf, String.toList_append, String.toList_append, List.append_assoc]
  cases node.isDir <;> rfl

section

variable {indent name : String} (hindent : IsBare indent) (hname : name ≠ "" ∧ IsSegment name)
  (last : Bool) (node : Node)

include hname in
/-- A name has a last character, and a slash is none of its characters. -/
theorem getLast?_name_ne_slash : name.toList.getLast? ≠ none ∧ name.toList.getLast? ≠ some '/' := by
  refine ⟨by simpa using hname.1, fun hlast => ?_⟩
  have hslash : '/' ∈ name.toList := List.mem_of_getLast? hlast
  exact hname.2.notMem (by decide) hslash

include hindent hname

/-- The name in a line is where the bare characters end. -/
theorem span_nodeLine :
    (nodeLine indent last name node).toList.takeWhile (!isSegmentChar ·) =
        (indent ++ branch last).toList ∧
      (nodeLine indent last name node).toList.dropWhile (!isSegmentChar ·) =
        name.toList ++ slashOf node := by
  have hfront : ∀ c ∈ (indent ++ branch last).toList, (!isSegmentChar c) = true := by
    intro c hc
    rw [(hindent.append (isBare_branch last) c hc).1]
    rfl
  obtain ⟨first, others, hcons⟩ := List.exists_cons_of_ne_nil
    (show name.toList ≠ [] by simpa using hname.1)
  have hfirst : isSegmentChar first = true := hname.2 first (by simp [hcons])
  rw [toList_nodeLine, List.takeWhile_append_of_pos hfront, List.dropWhile_append_of_pos hfront,
    hcons]
  simp [hfirst]

/-- The name in a line begins four columns behind the indent. -/
theorem column_nodeLine : column (nodeLine indent last name node) = indent.length + 4 := by
  rw [column, (span_nodeLine hindent hname last node).1, String.length_toList,
    length_append_branch]

/-- The name is read off the line of an entry. -/
theorem name_nodeLine : Outline.name (nodeLine indent last name node) = name := by
  have hslash : (slashOf node).takeWhile isSegmentChar = [] := by
    rw [slashOf]
    cases node.isDir <;> decide
  rw [Outline.name, (span_nodeLine hindent hname last node).2,
    List.takeWhile_append_of_pos hname.2, hslash, List.append_nil, String.ofList_toList]

omit hindent in
/-- Whether an entry is a directory is read off its line. -/
theorem isDirLine_nodeLine : isDirLine (nodeLine indent last name node) = node.isDir := by
  obtain ⟨hsome, hne⟩ := getLast?_name_ne_slash hname
  obtain ⟨c, hc⟩ := Option.ne_none_iff_exists'.mp hsome
  rw [isDirLine, toList_nodeLine, slashOf]
  cases node.isDir
  · simpa [List.getLast?_append, hc] using hne
  · simp [List.getLast?_append]

/-- There is no newline in the line of an entry. -/
theorem newline_notMem_nodeLine : '\n' ∉ (nodeLine indent last name node).toList := by
  have hslash : '\n' ∉ slashOf node := by
    rw [slashOf]
    cases node.isDir <;> decide
  rw [toList_nodeLine, List.mem_append, List.mem_append, not_or, not_or]
  exact ⟨fun hmem => (hindent.append (isBare_branch last) _ hmem).2 rfl,
    hname.2.notMem (by decide), hslash⟩

end

/-! ### From the lines to the outline -/

/-- A line takes up what begins farther to the right, as far as that goes. -/
theorem addLine_append {line : String} {inside : List (String × Outline)} {column' : Nat}
    (hinside : column line < column') {below : List (Nat × String × Outline)}
    (hbelow : ∀ entry ∈ below, entry.1 ≤ column line) :
    addLine line (inside.map (column', ·) ++ below) =
      (column line, name line, if isDirLine line then .dir inside else .file) :: below := by
  have htaken : ∀ entry ∈ inside.map (column', ·), decide (column line < entry.1) = true := by
    intro entry hentry
    obtain ⟨_, -, rfl⟩ := List.mem_map.mp hentry
    exact decide_eq_true hinside
  have hleft : below.takeWhile (column line < ·.1) = [] ∧
      below.dropWhile (column line < ·.1) = below := by
    cases below with
    | nil => exact ⟨rfl, rfl⟩
    | cons entry below =>
        have := hbelow entry List.mem_cons_self
        simp [this]
  rw [addLine, List.takeWhile_append_of_pos htaken, List.dropWhile_append_of_pos htaken, hleft.1,
    hleft.2, List.append_nil, List.map_map]
  simp [Function.comp_def]

mutual

/-- `foldr_addLine_draw` for the lines below a node. -/
theorem foldr_addLine_drawNode {node : Node}
    (hnames : ∀ name ∈ nodeNames node, name ≠ "" ∧ IsSegment name) {indent : String}
    (hindent : IsBare indent) {below : List (Nat × String × Outline)}
    (hbelow : ∀ entry ∈ below, entry.1 ≤ indent.length + 4) :
    ∃ inside, (drawNode indent node).foldr addLine below =
        inside.map (indent.length + 4, ·) ++ below ∧
      ofNode node = if node.isDir then .dir inside else .file := by
  cases node with
  | file content => exact ⟨[], rfl, rfl⟩
  | dir entries => exact ⟨ofEntries entries, foldr_addLine_draw hnames hindent hbelow, rfl⟩

/-- **The lines of a directory are read as what is in it**, in front of whatever has been read of
lines whose names do not begin farther to the right. -/
theorem foldr_addLine_draw {entries : Entries} (hnames : WellNamed entries) {indent : String}
    (hindent : IsBare indent) {below : List (Nat × String × Outline)}
    (hbelow : ∀ entry ∈ below, entry.1 ≤ indent.length + 4) :
    (draw indent entries).foldr addLine below =
      (ofEntries entries).map (indent.length + 4, ·) ++ below := by
  cases entries with
  | nil => rfl
  | cons entry rest =>
      obtain ⟨name, node⟩ := entry
      simp only [WellNamed, namesWithin, List.forall_mem_cons, List.forall_mem_append] at hnames
      obtain ⟨hname, hnode, hrest⟩ := hnames
      have hcolumn := column_nodeLine hindent hname rest.isEmpty node
      -- what has been read of the lines after the node does not begin farther to the right
      have hafter : ∀ entry ∈ (ofEntries rest).map (indent.length + 4, ·) ++ below,
          entry.1 ≤ indent.length + 4 := by
        intro entry hentry
        rcases List.mem_append.mp hentry with hentry | hentry
        · obtain ⟨_, -, rfl⟩ := List.mem_map.mp hentry
          exact Nat.le_refl _
        · exact hbelow entry hentry
      obtain ⟨inside, hinside, hnodeOutline⟩ := foldr_addLine_drawNode hnode
        (hindent.append (isBare_trunk rest.isEmpty))
        (fun entry hentry => by
          rw [length_append_trunk]
          exact Nat.le_add_right_of_le (hafter entry hentry))
      rw [draw_cons, List.foldr_cons, List.foldr_append, foldr_addLine_draw hrest hindent hbelow,
        hinside, addLine_append (by rw [hcolumn, length_append_trunk]; omega)
          (by rwa [hcolumn]),
        hcolumn, name_nodeLine hindent hname, isDirLine_nodeLine hname, ← hnodeOutline]
      rfl

end

mutual

/-- Nor is there in any line that an entry is drawn with. -/
theorem newline_notMem_of_mem_drawNode {node : Node}
    (hnames : ∀ name ∈ nodeNames node, name ≠ "" ∧ IsSegment name) {indent : String}
    (hindent : IsBare indent) : ∀ line ∈ drawNode indent node, '\n' ∉ line.toList := by
  cases node with
  | file content => simp [drawNode]
  | dir entries => exact newline_notMem_of_mem_draw hnames hindent

/-- A line of a drawing is one line. -/
theorem newline_notMem_of_mem_draw {entries : Entries} (hnames : WellNamed entries)
    {indent : String} (hindent : IsBare indent) :
    ∀ line ∈ draw indent entries, '\n' ∉ line.toList := by
  cases entries with
  | nil => simp [draw]
  | cons entry rest =>
      obtain ⟨name, node⟩ := entry
      simp only [WellNamed, namesWithin, List.forall_mem_cons, List.forall_mem_append] at hnames
      obtain ⟨hname, hnode, hrest⟩ := hnames
      rw [draw_cons, List.forall_mem_cons, List.forall_mem_append]
      exact ⟨newline_notMem_nodeLine hindent hname rest.isEmpty node,
        newline_notMem_of_mem_drawNode hnode (hindent.append (isBare_trunk rest.isEmpty)),
        newline_notMem_of_mem_draw hrest hindent⟩

end

/-- The lines of a drawing are those that were drawn. -/
theorem lines_drawing {entries : Entries} (hnames : WellNamed entries) :
    lines (drawing entries) = draw "" entries := by
  cases entries with
  | nil => rfl
  | cons entry rest =>
      obtain ⟨name, node⟩ := entry
      have hbreak : ∀ cs ∈ (draw "" ((name, node) :: rest)).map String.toList, '\n' ∉ cs := by
        intro cs hcs
        obtain ⟨line, hline, rfl⟩ := List.mem_map.mp hcs
        exact newline_notMem_of_mem_draw hnames (by decide) line hline
      have hsplit : (drawing ((name, node) :: rest)).toList.splitOn '\n' =
          (draw "" ((name, node) :: rest)).map String.toList := by
        rw [drawing, String.toList_intercalate]
        exact List.splitOn_intercalate '\n' hbreak (by simp [draw_cons])
      -- the first line is not empty, so that neither is the drawing
      have hshown : drawing ((name, node) :: rest) ≠ "" := by
        intro hnone
        rw [hnone, draw_cons, List.map_cons, toList_nodeLine, String.toList_append] at hsplit
        have hbranch : (branch rest.isEmpty).toList ≠ [] := by
          cases rest.isEmpty <;> decide
        simp_all
      rw [lines, if_neg hshown, hsplit, List.map_map]
      simp [Function.comp_def]

/-! ### What is told by an outline -/

mutual

/-- An entry is drawn with one line for each name in it. -/
theorem length_drawNode (indent : String) (node : Node) :
    (drawNode indent node).length = (nodeNames node).length := by
  cases node with
  | file content => rfl
  | dir entries => exact length_draw indent entries

/-- There is one line for each node. -/
theorem length_draw (indent : String) (entries : Entries) :
    (draw indent entries).length = (namesWithin entries).length := by
  cases entries with
  | nil => rfl
  | cons entry rest =>
      obtain ⟨name, node⟩ := entry
      rw [draw_cons, namesWithin, List.length_cons, List.length_append, length_drawNode,
        length_draw, List.length_cons, List.length_append]

end

mutual

/-- The paths of an outline are those of the files. -/
theorem nodePaths_ofNode (node : Node) : nodePaths (ofNode node) = (nodeFiles node).map (·.1) := by
  cases node with
  | file content => rfl
  | dir entries => exact paths_ofEntries entries

/-- The paths in an outline are those to the files. -/
theorem paths_ofEntries (entries : Entries) :
    paths (ofEntries entries) = (files entries).map (·.1) := by
  cases entries with
  | nil => rfl
  | cons entry rest =>
      obtain ⟨name, node⟩ := entry
      rw [ofEntries, paths, nodePaths_ofNode, paths_ofEntries, files, List.map_append, List.map_map,
        List.map_map]
      rfl

end

/-- A drawing is read as what was drawn. -/
theorem read_drawing_eq {entries : Entries} (hnames : WellNamed entries) :
    read (drawing entries) = ofEntries entries := by
  have hroot : IsBare "" := by decide
  rw [read, lines_drawing hnames, foldr_addLine_draw hnames hroot (List.forall_mem_nil _),
    List.append_nil, List.map_map]
  simp [Function.comp_def]

end Outline

/-! ### The names of documents -/

/-- The names in a directory of texts are those of the texts. -/
theorem forall_mem_namesWithin_texts {sheets : List (String × String)} {P : String → Prop} :
    (∀ name ∈ namesWithin (texts sheets), P name) ↔ ∀ sheet ∈ sheets, P sheet.1 := by
  rw [forall_mem_namesWithin_iff, texts, List.forall_mem_map]
  simp [Node.ofText, nodeNames]

/-- The names of the directories and texts of a résumé are not empty. -/
theorem ne_empty_of_mem_rootEntries (info : PersonalInfo) (about : Json) (jobs : List Experience)
    (skills : Skills) (projects : List Project) (education : Education) :
    ∀ name ∈ namesWithin (rootEntries info about jobs skills projects education), name ≠ "" := by
  have hcontact : ∀ sheet ∈ info.contact.sheets, sheet.1 ≠ "" := by
    intro sheet hsheet
    obtain ⟨field, -, hfield⟩ := List.mem_filterMap.mp hsheet
    obtain ⟨value, -, rfl⟩ := Option.map_eq_some_iff.mp hfield
    simp
  have hproject : ∀ sheet ∈ projectSheets projects, sheet.1 ≠ "" := by
    intro sheet hsheet
    obtain ⟨item, -, rfl⟩ := List.mem_map.mp hsheet
    simp
  have hjob : ∀ entry ∈ experienceEntries jobs,
      entry.1 ≠ "" ∧ ∀ name ∈ nodeNames entry.2, name ≠ "" := by
    intro entry hentry
    obtain ⟨⟨job, i⟩, -, rfl⟩ := List.mem_map.mp hentry
    refine ⟨by simp [Experience.directoryName], ?_⟩
    rw [nodeNames, forall_mem_namesWithin_texts]
    simp [Experience.sheets]
  have hinfo : ∀ name ∈ namesWithin info.entries, name ≠ "" := by
    have hsheets : ∀ name ∈ namesWithin (texts info.sheets), name ≠ "" :=
      forall_mem_namesWithin_texts.mpr (by simp [PersonalInfo.sheets])
    rw [forall_mem_namesWithin_iff, PersonalInfo.entries, List.forall_mem_append,
      List.forall_mem_singleton]
    exact ⟨forall_mem_namesWithin_iff.mp hsheets, by simp,
      forall_mem_namesWithin_texts.mpr hcontact⟩
  rw [forall_mem_namesWithin_iff, rootEntries]
  simp only [List.forall_mem_cons, nodeNames, forall_mem_namesWithin_texts]
  exact ⟨⟨by decide, hinfo⟩, ⟨by decide, List.forall_mem_nil _⟩,
    ⟨by decide, forall_mem_namesWithin_iff.mpr hjob⟩, ⟨by decide, by simp [Skills.sheets]⟩,
    ⟨by decide, hproject⟩, ⟨by decide, by simp [Education.sheets]⟩, List.forall_mem_nil _⟩

/-- **Documents are filed under names that are safe and not empty.** -/
theorem Document.wellNamed_root (document : Document) : WellNamed document.file.1.root := by
  intro name hname
  refine ⟨?_, document.isSegment_of_mem_namesWithin name hname⟩
  obtain hroot | ⟨info, about, jobs, skills, projects, education, hroot⟩ := document.root_cases
  · rw [hroot] at hname
    cases hname
  · rw [hroot] at hname
    exact ne_empty_of_mem_rootEntries info about jobs skills projects education name hname

/-! ### Drawings -/

/-- **A drawing is read as what was drawn**: the names in it, which are files and which directories,
in their order and at every depth. There is a line for each node, and the paths to the files are
those of a walk. So trees of one drawing have one outline. This holds of every tree of names that
are safe and not empty, and so of every document. -/
theorem read_drawing :
    (∀ document : Document, WellNamed document.file.1.root) ∧
      ∀ entries, WellNamed entries →
        Outline.read (drawing entries) = Outline.ofEntries entries ∧
          (∀ others, WellNamed others → drawing others = drawing entries →
            Outline.ofEntries others = Outline.ofEntries entries) ∧
          Outline.lines (drawing entries) = draw "" entries ∧
          (draw "" entries).length = (namesWithin entries).length ∧
          (Outline.paths (Outline.read (drawing entries))).map (String.intercalate "/") =
            (walk entries).map (·.1) := by
  refine ⟨Document.wellNamed_root, fun entries hnames => ?_⟩
  have hread := Outline.read_drawing_eq hnames
  refine ⟨hread, fun others hothers hsame => ?_, Outline.lines_drawing hnames,
    Outline.length_draw "" entries, ?_⟩
  · rw [← hread, ← hsame, Outline.read_drawing_eq hothers]
  · rw [hread, Outline.paths_ofEntries, walk, List.map_map, List.map_map]
    rfl

/-- Empty directories, and what comes after and below a last one. -/
def attic : Entries :=
  [("trunk", .dir [("hats", .dir []), ("box", .dir [("deep.txt", .ofText "")])]),
    ("void", .dir []), ("last", .dir [("a", .ofText ""), ("b", .dir [])])]

/-- A tree with files and empty directories is drawn and read back. -/
theorem read_drawing_attic :
    WellNamed attic ∧
      drawing attic =
        "├── trunk/\n│   ├── hats/\n│   └── box/\n│       └── deep.txt\n├── void/\n" ++
          "└── last/\n    ├── a\n    └── b/" ∧
      Outline.read (drawing attic) = Outline.ofEntries attic ∧
      (Outline.paths (Outline.read (drawing attic))).map (String.intercalate "/") =
        ["trunk/box/deep.txt", "last/a"] := by
  have hnames : WellNamed attic := by
    unfold WellNamed
    decide
  obtain ⟨hread, -, -, -, hpaths⟩ := read_drawing.2 attic hnames
  exact ⟨hnames, by decide +kernel, hread, hpaths.trans (by decide +kernel)⟩

end VitaeShell
