import VitaeShell.Proofs.Command.Reply
import VitaeShell.Proofs.Line.Argument
import VitaeShell.Proofs.Path.Resolution
import VitaeShell.Proofs.Tree.Place

/-!
# Looking around, reading and moving

`ls` shows a grid of names and kinds, and a name from it can be given to `cat` or `cd` between
quotes, whatever characters it is made of. The three agree: `cat` reads what the grid lists as a
file, unless it is empty, and `cd` enters what it lists as a directory; of any other name they say
that there is no such thing. For `cd` these are the names that lead down by one directory
(`Path.IsStep`), as the others have a meaning of their own in a path.

## Main results

* `mem_listing_iff`: the grid lists what the current directory holds, with its kind.
* `read_ls_cat_cd`: listing, reading and entering agree.
-/

namespace VitaeShell

namespace FileSystem

variable {fs : FileSystem} {here : Entries} {name : String}

/-! ### A name in the current directory -/

/-- One step below the current directory stands what the name stands for in it. -/
theorem find?_cwd_append (hfs : fs.here? = some here) (name : String) :
    fs.root.find? (fs.cwd ++ [name]) = here.find? [name] := by
  have hhere : fs.root.find? fs.cwd = some here := hfs
  rw [Entries.find?_append, hhere, Option.bind_some]

/-- A directory in the current one can be entered by its name. -/
theorem enter_of_lookup (hfs : fs.here? = some here) (hname : Path.IsStep name) {below : Entries}
    (hlookup : here.lookup name = some (.dir below)) :
    fs.enter name = .ok ⟨fs.root, fs.cwd ++ [name]⟩ := by
  have hfind : here.find? [name] = some below := by
    rw [Entries.find?, hlookup]
    rfl
  simp only [enter, Path.resolve_name hname, find?_cwd_append hfs, hfind]

/-- A name that is no directory in the current one cannot be entered. -/
theorem enter_of_forall_lookup_ne (hfs : fs.here? = some here) (hname : Path.IsStep name)
    (hlookup : ∀ below, here.lookup name ≠ some (.dir below)) :
    fs.enter name = .error (.noDirectory name) := by
  have hfind : here.find? [name] = none := by
    rw [Entries.find?]
    split
    · next below hbelow => exact absurd hbelow (hlookup below)
    · rfl
  simp only [enter, Path.resolve_name hname, find?_cwd_append hfs, hfind]

/-- A file of text is read unless it is empty. -/
theorem fileContent_of_lookup (hfs : fs.here? = some here) {content : String}
    (hlookup : here.lookup name = some (.ofText content)) (hne : content ≠ "") :
    fs.fileContent name = .ok (.text content) :=
  fileContent_eq_ok_iff.mpr ⟨here, hfs, hlookup, by simpa [Json.isSubstantial] using hne⟩

/-- What is no file of text, or an empty one, is refused, if there are no files of another sort. -/
theorem fileContent_of_forall_lookup_ne (hfs : fs.here? = some here)
    (htext : Entries.TextOnly fs.root)
    (hlookup : ∀ content, here.lookup name = some (.ofText content) → content = "") :
    fs.fileContent name = .error (.noFile name) := by
  rcases hcontent : fs.fileContent name with fault | content
  · rcases fileContent_eq_error hcontent with ⟨hnone, -⟩ | rfl
    · rw [hfs] at hnone
      cases hnone
    · rfl
  · obtain ⟨text, rfl⟩ := exists_text_of_fileContent htext hcontent
    obtain ⟨entries, hentries, hfound, hsubstantial⟩ := fileContent_eq_ok_iff.mp hcontent
    obtain rfl : here = entries := Option.some.inj (hfs.symm.trans hentries)
    rw [hlookup text hfound] at hsubstantial
    cases hsubstantial

end FileSystem

namespace Builtin

/-! ### The grid -/

/-- The grid that `ls` shows. -/
def listing (here : Entries) : List GridItem :=
  here.map fun entry => gridItem entry.1 entry.2

/-- The grid lists what the directory holds, with its kind. -/
theorem mem_listing_iff {here : Entries} (hhere : Table.Distinct here) {name kind : String} :
    ⟨.text name, .text kind⟩ ∈ listing here ↔
      ∃ node, here.lookup name = some node ∧
        kind = if node.isDir then directoryKind else fileKind := by
  simp only [Table.lookup_eq_some_iff_mem hhere, listing, List.mem_map]
  constructor
  · rintro ⟨⟨other, node⟩, hmem, heq⟩
    obtain ⟨rfl, rfl⟩ : other = name ∧ (if node.isDir then directoryKind else fileKind) = kind := by
      simpa [gridItem] using heq
    exact ⟨node, hmem, rfl⟩
  · rintro ⟨node, hmem, rfl⟩
    exact ⟨(name, node), hmem, rfl⟩

/-- The files in a listing are those of the directory. -/
theorem mem_listing_file_iff {here : Entries} (hhere : Table.Distinct here) {name : String} :
    ⟨.text name, .text fileKind⟩ ∈ listing here ↔
      ∃ content, here.lookup name = some (.file content) := by
  rw [mem_listing_iff hhere]
  constructor
  · rintro ⟨node, hlookup, hkind⟩
    cases node with
    | file content => exact ⟨content, hlookup⟩
    | dir below => exact absurd (show fileKind = directoryKind from hkind) (by decide)
  · rintro ⟨content, hlookup⟩
    exact ⟨.file content, hlookup, rfl⟩

/-- The directories in a listing are those of the directory. -/
theorem mem_listing_directory_iff {here : Entries} (hhere : Table.Distinct here) {name : String} :
    ⟨.text name, .text directoryKind⟩ ∈ listing here ↔
      ∃ below, here.lookup name = some (.dir below) := by
  rw [mem_listing_iff hhere]
  constructor
  · rintro ⟨node, hlookup, hkind⟩
    cases node with
    | file content => exact absurd (show directoryKind = fileKind from hkind) (by decide)
    | dir below => exact ⟨below, hlookup⟩
  · rintro ⟨below, hlookup⟩
    exact ⟨.dir below, hlookup, rfl⟩

/-! ### Lines with a quoted name -/

variable {fs : FileSystem} {here : Entries} {name : String}

/-- The line that gives a command a name between quotes. -/
def quotedLine (word name : String) : String :=
  word ++ " \x22" ++ name ++ "\x22"

/-- A quoted name is read as one argument, whatever blanks are in it. -/
theorem parse_quotedLine (b : Builtin) (hquote : '\x22' ∉ name.toList) :
    CommandLine.parse (quotedLine b.name name) = ⟨b.name, [name]⟩ := by
  have hword : ∀ c ∈ b.name.toList, isWordChar c = true :=
    List.all_eq_true.mp (by cases b <;> decide)
  have hne : b.name ≠ "" := by
    cases b <;> decide
  have hlower : Text.lowercase b.name = b.name := by
    cases b <;> decide
  rw [quotedLine, CommandLine.parse_quoted hne hword hquote, hlower]

/-- What the registry answers to a line with a quoted name is what the command answers. -/
theorem answer_quotedLine {b : Builtin} {answer : Answer} {clipboard : Clipboard}
    (hquote : '\x22' ∉ name.toList) (h : (b.action [name] fs clipboard).1 = .ok answer) :
    (registry.run (.parse (quotedLine b.name name)) fs clipboard).answer = answer := by
  rw [parse_quotedLine b hquote, run_of_action_eq_ok h]

/-- A listing is answered as a grid, and changes nothing. -/
theorem answer_ls (hfs : fs.here? = some here) (clipboard : Clipboard) :
    (registry.run (.parse "ls") fs clipboard).answer =
      ⟨(Payload.grid (listing here)).encode, fs⟩ := by
  have hparse : CommandLine.parse "ls" = ⟨ls.name, []⟩ := by decide +kernel
  have haction : (ls.action [] fs clipboard).1 =
      .ok ⟨(Payload.grid (listing here)).encode, fs⟩ := by
    simp only [action, runLs, FileSystem.here_eq_ok_iff.mpr hfs]
    rfl
  rw [hparse, run_of_action_eq_ok haction]

/-- A file of text is shown, with its blank lines left out if it has several lines. -/
theorem answer_cat_of_lookup (hfs : fs.here? = some here) (hquote : '\x22' ∉ name.toList)
    {content : String} (hlookup : here.lookup name = some (.ofText content)) (hne : content ≠ "")
    (clipboard : Clipboard) :
    (registry.run (.parse (quotedLine "cat" name)) fs clipboard).answer =
      ⟨(shownText content).encode, fs⟩ := by
  have hcontent := FileSystem.fileContent_of_lookup hfs hlookup hne
  refine answer_quotedLine (b := cat) hquote ?_
  simp only [action, runCat, hcontent, showContent]
  rfl

/-- A name that is no file with something in it is answered with a message. -/
theorem answer_cat_of_forall_lookup_ne (hfs : fs.here? = some here)
    (htext : Entries.TextOnly fs.root) (hquote : '\x22' ∉ name.toList)
    (hlookup : ∀ content, here.lookup name = some (.ofText content) → content = "")
    (clipboard : Clipboard) :
    (registry.run (.parse (quotedLine "cat" name)) fs clipboard).answer =
      ⟨"File not found: " ++ name, fs⟩ := by
  have hcontent := FileSystem.fileContent_of_forall_lookup_ne hfs htext hlookup
  refine answer_quotedLine (b := cat) hquote ?_
  simp only [action, runCat, hcontent]
  rfl

/-- A directory is entered. -/
theorem answer_cd_of_lookup (hfs : fs.here? = some here) (hquote : '\x22' ∉ name.toList)
    (hname : Path.IsStep name) {below : Entries} (hlookup : here.lookup name = some (.dir below))
    (clipboard : Clipboard) :
    (registry.run (.parse (quotedLine "cd" name)) fs clipboard).answer =
      ⟨"Changed directory to " ++ Path.format (fs.cwd ++ [name]),
        ⟨fs.root, fs.cwd ++ [name]⟩⟩ := by
  have henter := FileSystem.enter_of_lookup hfs hname hlookup
  refine answer_quotedLine (b := cd) hquote ?_
  simp only [action, runCd, List.head?_cons, Option.getD_some, henter]

/-- A name that is no directory is answered with a message, and the shell stays where it is. -/
theorem answer_cd_of_forall_lookup_ne (hfs : fs.here? = some here) (hquote : '\x22' ∉ name.toList)
    (hname : Path.IsStep name) (hlookup : ∀ below, here.lookup name ≠ some (.dir below))
    (clipboard : Clipboard) :
    (registry.run (.parse (quotedLine "cd" name)) fs clipboard).answer =
      ⟨"Directory not found: " ++ name, fs⟩ := by
  have henter := FileSystem.enter_of_forall_lookup_ne hfs hname hlookup
  refine answer_quotedLine (b := cd) hquote ?_
  simp only [action, runCd, List.head?_cons, Option.getD_some, henter]
  rfl

/-- Whether it shows a file or not, `cat` leaves everything as it is. -/
theorem fs_answer_cat (hfs : fs.here? = some here) (htext : Entries.TextOnly fs.root)
    (hquote : '\x22' ∉ name.toList) (clipboard : Clipboard) :
    (registry.run (.parse (quotedLine "cat" name)) fs clipboard).answer.fs = fs := by
  by_cases hfile : ∃ content, here.lookup name = some (.ofText content) ∧ content ≠ ""
  · obtain ⟨content, hlookup, hne⟩ := hfile
    rw [answer_cat_of_lookup hfs hquote hlookup hne]
  · rw [answer_cat_of_forall_lookup_ne hfs htext hquote (by simpa using hfile)]

/-- `cat` says that there is no such file exactly of what it cannot show. -/
theorem output_cat_eq_iff (hfs : fs.here? = some here) (htext : Entries.TextOnly fs.root)
    (hquote : '\x22' ∉ name.toList) (clipboard : Clipboard) :
    (registry.run (.parse (quotedLine "cat" name)) fs clipboard).answer.output =
        "File not found: " ++ name ↔
      ∀ content, here.lookup name = some (.ofText content) → content = "" := by
  constructor
  · intro hrefused content hlookup
    by_contra hne
    rw [answer_cat_of_lookup hfs hquote hlookup hne] at hrefused
    have hapart : Text.Apart payloadOpening "File not found: " := by decide
    exact hapart.ne (Payload.startsWith_encode _)
      (Text.startsWith_append (Text.startsWith_self _) _) hrefused
  · intro hlookup
    rw [answer_cat_of_forall_lookup_ne hfs htext hquote hlookup]

/-- `cd` says that there is no such directory exactly of what it cannot enter. -/
theorem output_cd_eq_iff (hfs : fs.here? = some here) (hquote : '\x22' ∉ name.toList)
    (hname : Path.IsStep name) (clipboard : Clipboard) :
    (registry.run (.parse (quotedLine "cd" name)) fs clipboard).answer.output =
        "Directory not found: " ++ name ↔
      ∀ below, here.lookup name ≠ some (.dir below) := by
  constructor
  · intro hrefused below hlookup
    rw [answer_cd_of_lookup hfs hquote hname hlookup] at hrefused
    have hapart : Text.Apart "Changed directory to " "Directory not found: " := by decide
    exact hapart.ne (Text.startsWith_append (Text.startsWith_self _) _)
      (Text.startsWith_append (Text.startsWith_self _) _) hrefused
  · intro hlookup
    rw [answer_cd_of_forall_lookup_ne hfs hquote hname hlookup]

/-! ### What the front end sees -/

/-- A listing is read back as the grid that it was sent as. -/
theorem read_encode_listing (here : Entries) :
    Reply.read (Payload.grid (listing here)).encode = .ok (.payload (.grid (listing here))) := by
  have htyped : (Payload.grid (listing here)).WellTyped := by
    intro item hitem
    obtain ⟨entry, -, rfl⟩ := List.mem_map.mp hitem
    exact ⟨_, _, rfl⟩
  exact htyped.read_encode trivial

/-- So is the text of a file. -/
theorem read_encode_shownText (content : String) :
    Reply.read (shownText content).encode = .ok (.payload (shownText content)) := by
  rw [shownText]
  split
  · exact Payload.WellTyped.read_encode trivial trivial
  · exact Payload.WellTyped.read_encode trivial trivial

/-- **Listing, reading and moving agree.** In a directory that exists, in a tree of texts in which
no directory holds a name twice, and for a name without a quote: a front end reads a grid from the
answer of `ls`. Given the name between quotes, `cat` says that there is no such file unless the grid
lists it as a file and the file is not empty, and then the front end reads its text, or its lines
that are not blank if it has several. A name that leads down by one directory is entered by `cd` if
the grid lists it as a directory, and refused otherwise. Nothing else changes. -/
theorem read_ls_cat_cd (hfs : fs.here? = some here) (hroot : Entries.Unambiguous fs.root)
    (htext : Entries.TextOnly fs.root) (hquote : '\x22' ∉ name.toList) (clipboard : Clipboard) :
    let answer (line : String) : Answer := (registry.run (.parse line) fs clipboard).answer
    let ls := answer "ls"
    let cat := answer (quotedLine "cat" name)
    let cd := answer (quotedLine "cd" name)
    ∃ items, Reply.read ls.output = .ok (.payload (.grid items)) ∧ ls.fs = fs ∧ cat.fs = fs ∧
      (cat.output = "File not found: " ++ name ↔
        ¬(⟨.text name, .text fileKind⟩ ∈ items ∧
          ∃ content, here.lookup name = some (.ofText content) ∧ content ≠ "")) ∧
      (∀ content, here.lookup name = some (.ofText content) → content ≠ "" →
        Reply.read cat.output = .ok (.payload (if '\n' ∈ content.toList
          then .list ((Text.lines content).filter fun line => !Text.isBlankText line)
          else .text content))) ∧
      (Path.IsStep name →
        (cd.output = "Directory not found: " ++ name ↔
          ⟨.text name, .text directoryKind⟩ ∉ items) ∧
        (⟨.text name, .text directoryKind⟩ ∈ items →
          cd.output = "Changed directory to " ++ Path.format (fs.cwd ++ [name]) ∧
            cd.fs = ⟨fs.root, fs.cwd ++ [name]⟩) ∧
        (⟨.text name, .text directoryKind⟩ ∉ items → cd.fs = fs)) := by
  intro answer ls cat cd
  have hhere : Table.Distinct here :=
    ((FileSystem.here?_eq_some_iff.mp hfs).unambiguous hroot).distinct
  have hls : ls = ⟨(Payload.grid (listing here)).encode, fs⟩ := answer_ls hfs clipboard
  refine ⟨listing here, ?_, ?_, fs_answer_cat hfs htext hquote clipboard, ?_, ?_,
    fun hname => ⟨?_, ?_, ?_⟩⟩
  · rw [hls]
    exact read_encode_listing here
  · rw [hls]
  · refine (output_cat_eq_iff hfs htext hquote clipboard).trans ⟨?_, ?_⟩
    · rintro hempty ⟨-, content, hlookup, hne⟩
      exact hne (hempty content hlookup)
    · intro hnone content hlookup
      by_contra hne
      have hlisted := (mem_listing_file_iff hhere).mpr ⟨.text content, hlookup⟩
      exact hnone ⟨hlisted, content, hlookup, hne⟩
  · intro content hlookup hne
    have hcat : cat = ⟨(shownText content).encode, fs⟩ :=
      answer_cat_of_lookup hfs hquote hlookup hne clipboard
    rw [hcat, read_encode_shownText]
    simp only [shownText, List.contains_iff_mem]
  · rw [mem_listing_directory_iff hhere, not_exists]
    exact output_cd_eq_iff hfs hquote hname clipboard
  · intro hlisted
    obtain ⟨below, hlookup⟩ := (mem_listing_directory_iff hhere).mp hlisted
    have hcd : cd = _ := answer_cd_of_lookup hfs hquote hname hlookup clipboard
    rw [hcd]
    exact ⟨rfl, rfl⟩
  · intro hlisted
    rw [mem_listing_directory_iff hhere, not_exists] at hlisted
    have hcd : cd = _ := answer_cd_of_forall_lookup_ne hfs hquote hname hlisted clipboard
    rw [hcd]

/-- A directory that holds a name with blanks as a file and one in another script as a directory. -/
def desk : Entries :=
  [("to do .txt", .ofText "tea\n \nmilk"), ("büro", .dir [("empty", .ofText "")])]

/-- The file with blanks in its name is shown, and the directory is entered. -/
theorem read_ls_cat_cd_desk :
    Entries.Unambiguous desk ∧ Entries.TextOnly desk ∧
      Reply.read (registry.run (.parse (quotedLine "cat" "to do .txt")) ⟨desk, []⟩
        .willing).answer.output = .ok (.payload (.list ["tea", "milk"])) ∧
      (registry.run (.parse (quotedLine "cd" "büro")) ⟨desk, []⟩ .willing).answer.fs =
        ⟨desk, ["büro"]⟩ := by
  have hunambiguous : Entries.Unambiguous desk := by
    simp [desk, Entries.Unambiguous, Entries.NodeUnambiguous, Table.names, Node.ofText]
  have htext : Entries.TextOnly desk := Entries.textOnly_of_files_eq
    [(["to do .txt"], "tea\n \nmilk"), (["büro", "empty"], "")] rfl
  have hhere : FileSystem.here? ⟨desk, []⟩ = some desk := rfl
  have hdistinct : Table.Distinct desk := hunambiguous.distinct
  refine ⟨hunambiguous, htext, ?_, ?_⟩
  · have hquote : '\x22' ∉ "to do .txt".toList := by decide
    obtain ⟨items, -, -, -, -, hcat, -⟩ :=
      read_ls_cat_cd hhere hunambiguous htext hquote .willing
    have hlines : (Text.lines "tea\n \nmilk").filter (fun line => !Text.isBlankText line) =
        ["tea", "milk"] := by decide
    have hshown := hcat "tea\n \nmilk" rfl (by decide)
    rw [if_pos (by decide), hlines] at hshown
    exact hshown
  · have hquote : '\x22' ∉ "büro".toList := by decide
    obtain ⟨items, hls, -, -, -, -, hcd⟩ :=
      read_ls_cat_cd hhere hunambiguous htext hquote .willing
    have hread : Reply.read (registry.run (.parse "ls") ⟨desk, []⟩ .willing).answer.output =
        .ok (.payload (.grid items)) := hls
    rw [answer_ls hhere, read_encode_listing] at hread
    cases hread
    have hlisted : ⟨.text "büro", .text directoryKind⟩ ∈ listing desk :=
      (mem_listing_directory_iff hdistinct).mpr ⟨_, rfl⟩
    have hname : Path.IsStep "büro" :=
      .of_mem (c := 'b') (by decide) (by decide) (by decide)
    exact ((hcd hname).2.1 hlisted).2

end Builtin

end VitaeShell
