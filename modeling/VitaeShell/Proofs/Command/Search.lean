import VitaeShell.Proofs.Command.Reply
import VitaeShell.Proofs.Text
import VitaeShell.Proofs.Tree.Place

/-!
# What a search reports

A hit of a search is a line of a file, with the text of the path to the file and the number of the
line in it (`Hit`). Which lines are hits is said through the tree alone, by following a path down
and cutting a text into lines (`Hit.IsIn`), and so is the order in which they come (`Hit.Before`).
A search reports these hits, each of them once and in that order.

The path of a hit is a text, and tells the path itself only if no name holds a slash.

## Main results

* `mem_hits_iff`: the hits in the files of a directory are those that its tree has.
* `pairwise_hits`: they come in the order of their files, and in a file in the order of its lines.
* `read_grep`: what a search answers, and what a front end reads from it.
-/

namespace VitaeShell

/-- A line found by a search: the path text of its file, its number from one, and the line. -/
structure Hit where
  path : String
  number : Nat
  line : String
deriving DecidableEq, Repr

namespace Hit

/-- A hit as it is reported for a keyword. -/
def toMatch (keyword : String) (hit : Hit) : GrepMatch :=
  ⟨.text hit.path, hit.number, .text hit.line, .text keyword⟩

/-- The tree below a directory **has** a hit for a keyword: its path leads to a file of text, the
line with its number is its line, and the keyword is in the lowercase of that line. -/
def IsIn (here : Entries) (keyword : String) (hit : Hit) : Prop :=
  ∃ content, here.Holds (Path.pieces hit.path) (.text content) ∧ 0 < hit.number ∧
    (Text.lines content)[hit.number - 1]? = some hit.line ∧
    keyword.toList <:+: Text.lower hit.line.toList

/-- A hit comes **before** another if its file does, or if it is an earlier line of the file. -/
def Before (here : Entries) (hit other : Hit) : Prop :=
  here.Before (Path.pieces hit.path) (Path.pieces other.path) ∨
    (hit.path = other.path ∧ hit.number < other.number)

/-- Different hits are different matches. -/
theorem toMatch_injective (keyword : String) : Function.Injective (toMatch keyword) := by
  rintro ⟨path, number, line⟩ ⟨path', number', line'⟩ h
  simpa [toMatch] using h

/-- Hits in order differ in their paths or in their numbers. -/
theorem Before.ne {here : Entries} (hhere : Entries.Unambiguous here) {hit other : Hit}
    (h : Before here hit other) : (hit.path, hit.number) ≠ (other.path, other.number) := by
  intro heq
  obtain ⟨hpath, hnumber⟩ := Prod.mk.inj heq
  rcases h with hfiles | ⟨-, hlines⟩
  · exact hfiles.ne hhere (congrArg Path.pieces hpath)
  · omega

end Hit

/-- The text of a path is put together from its pieces. -/
theorem Path.intercalate_pieces (text : String) :
    String.intercalate "/" (Path.pieces text) = text := by
  rw [← String.toList_inj, String.toList_intercalate, Path.pieces, List.map_map]
  simp [Function.comp_def, List.intercalate_splitOn]

namespace Builtin

/-! ### The hits in a text -/

/-- The hits in a text that stands at a path. -/
def hitsIn (keyword : String) (path : Path) (content : String) : List Hit :=
  ((Text.lines content).zipIdx.filter fun (line, _) =>
    Text.occursIn keyword.toList (Text.lower line.toList)).map fun (line, i) =>
      ⟨String.intercalate "/" path, i + 1, line⟩

/-- What is reported of a text are its hits. -/
theorem matchesIn_eq (keyword : String) (path : Path) (content : String) :
    matchesIn keyword path content = (hitsIn keyword path content).map (Hit.toMatch keyword) := by
  rw [matchesIn, hitsIn, List.map_map, ← List.filterMap_eq_map, List.filterMap_filter]
  rfl

/-- The hits in a text are the lines that have the keyword, numbered from one. -/
theorem mem_hitsIn_iff {keyword content : String} {path : Path} {hit : Hit} :
    hit ∈ hitsIn keyword path content ↔
      hit.path = String.intercalate "/" path ∧ 0 < hit.number ∧
        (Text.lines content)[hit.number - 1]? = some hit.line ∧
        keyword.toList <:+: Text.lower hit.line.toList := by
  rw [← List.mem_map_of_injective (Hit.toMatch_injective keyword), ← matchesIn_eq,
    mem_matchesIn_iff]
  simp only [Text.occursIn_iff]
  constructor
  · rintro ⟨i, line, hline, hoccurs, heq⟩
    have hhit : hit = ⟨String.intercalate "/" path, i + 1, line⟩ :=
      Hit.toMatch_injective keyword heq
    subst hhit
    exact ⟨rfl, by simp, by simpa using hline, hoccurs⟩
  · obtain ⟨_, number, line⟩ := hit
    rintro ⟨rfl, hnumber, hline, hoccurs⟩
    obtain ⟨i, rfl⟩ : ∃ i, number = i + 1 := ⟨number - 1, by simp only at hnumber; omega⟩
    exact ⟨i, line, hline, hoccurs, rfl⟩

/-- The hits in a text come in the order of their lines. -/
theorem pairwise_hitsIn (keyword : String) (path : Path) (content : String) :
    (hitsIn keyword path content).Pairwise fun hit other => hit.number < other.number := by
  have hnumbers : (Text.lines content).zipIdx.Pairwise fun first second => first.2 < second.2 := by
    rw [← List.pairwise_map (f := Prod.snd), List.zipIdx_map_snd]
    exact List.pairwise_lt_range'
  rw [hitsIn, List.pairwise_map]
  exact (hnumbers.filter _).imp Nat.succ_lt_succ

/-! ### The hits in files -/

/-- The hits in files. -/
def hits (keyword : String) (files : List (Path × Json)) : List Hit :=
  files.flatMap fun file =>
    match file.2 with
    | .text content => hitsIn keyword file.1 content
    | _ => []

/-- What a search of files finds are their hits. -/
theorem searchFiles_eq {keyword : String} {files : List (Path × Json)} {found : List GrepMatch}
    (h : searchFiles keyword files = .ok found) :
    found = (hits keyword files).map (Hit.toMatch keyword) := by
  induction files generalizing found with
  | nil =>
      cases h
      rfl
  | cons file rest ih =>
      obtain ⟨path, content⟩ := file
      cases content with
      | text content =>
          rw [searchFiles] at h
          split at h
          · next others hothers =>
              cases h
              rw [ih hothers, matchesIn_eq, ← List.map_append]
              rfl
          · cases h
      | null | bool _ | int _ | float _ | list _ | object _ => cases h

/-- The hits of a search are those in the files that hold text. -/
theorem mem_hits {keyword : String} {files : List (Path × Json)} {hit : Hit} :
    hit ∈ hits keyword files ↔
      ∃ path content, (path, .text content) ∈ files ∧ hit ∈ hitsIn keyword path content := by
  rw [hits, List.mem_flatMap]
  constructor
  · rintro ⟨⟨path, content⟩, hfile, hhit⟩
    cases content with
    | text content => exact ⟨path, content, hfile, hhit⟩
    | null | bool _ | int _ | float _ | list _ | object _ => cases hhit
  · rintro ⟨path, content, hfile, hhit⟩
    exact ⟨(path, .text content), hfile, hhit⟩

/-! ### The hits below a directory -/

section Directory

variable {here : Entries} (hhere : Entries.Unambiguous here)
  (hslash : ∀ name ∈ Entries.namesWithin here, '/' ∉ name.toList)

include hslash in
/-- The pieces of a file's path text are its path. -/
theorem pieces_of_mem_files {path : Path} {content : Json}
    (h : (path, content) ∈ Entries.files here) :
    Path.pieces (String.intercalate "/" path) = path := by
  obtain ⟨name, rest, rfl, -⟩ := Entries.exists_cons_of_mem_files h
  exact Path.pieces_intercalate (List.cons_ne_nil _ _) fun segment hsegment =>
    hslash segment (Entries.mem_namesWithin_of_mem_files h segment hsegment)

include hhere hslash in
/-- **The hits in the files of a directory are those that its tree has.** -/
theorem mem_hits_iff {keyword : String} {hit : Hit} :
    hit ∈ hits keyword (Entries.files here) ↔ hit.IsIn here keyword := by
  rw [mem_hits]
  constructor
  · rintro ⟨path, content, hfile, hhit⟩
    obtain ⟨hpath, hline⟩ := mem_hitsIn_iff.mp hhit
    refine ⟨content, ?_, hline⟩
    rw [hpath, pieces_of_mem_files hslash hfile]
    exact (Entries.mem_files_iff hhere).mp hfile
  · rintro ⟨content, hholds, hline⟩
    refine ⟨_, content, hholds.mem_files, mem_hitsIn_iff.mpr ⟨?_, hline⟩⟩
    rw [Path.intercalate_pieces]

include hhere hslash in
/-- **Hits come in the order of their files, and in a file in the order of its lines.** -/
theorem pairwise_hits (keyword : String) :
    (hits keyword (Entries.files here)).Pairwise (Hit.Before here) := by
  rw [hits, List.pairwise_flatMap]
  constructor
  · rintro ⟨path, content⟩ -
    cases content with
    | text content =>
        refine (pairwise_hitsIn keyword path content).imp_of_mem ?_
        intro hit other hhit hother hlt
        have hpath : hit.path = other.path :=
          (mem_hitsIn_iff.mp hhit).1.trans (mem_hitsIn_iff.mp hother).1.symm
        exact .inr ⟨hpath, hlt⟩
    | null | bool _ | int _ | float _ | list _ | object _ => exact .nil
  · refine (Entries.pairwise_files hhere).imp_of_mem ?_
    rintro ⟨path, content⟩ ⟨path', content'⟩ hfile hfile' hbefore hit hhit other hother
    have hpath : Path.pieces hit.path = path := by
      obtain ⟨text, rfl⟩ : ∃ text, content = .text text := by
        cases content <;> simp_all
      rw [(mem_hitsIn_iff.mp hhit).1, pieces_of_mem_files hslash hfile]
    have hpath' : Path.pieces other.path = path' := by
      obtain ⟨text, rfl⟩ : ∃ text, content' = .text text := by
        cases content' <;> simp_all
      rw [(mem_hitsIn_iff.mp hother).1, pieces_of_mem_files hslash hfile']
    left
    rw [hpath, hpath']
    exact hbefore

end Directory

/-! ### The answer of a search -/

/-- What is said of a search without a hit. -/
def noMatchesMessage (keyword : String) : String :=
  "No matches found for '" ++ keyword ++ "'"

/-- A search in a directory that exists answers what it found, or that it found nothing. -/
theorem output_grep {fs : FileSystem} {here : Entries} (hfs : fs.here? = some here) {word : String}
    {found : List GrepMatch}
    (hfound : searchFiles (Text.lowercase word) (Entries.files here) = .ok found)
    (clipboard : Clipboard) :
    (registry.run ⟨"grep", [word]⟩ fs clipboard).answer.output =
      if found.isEmpty then noMatchesMessage (Text.lowercase word)
      else (Payload.grep found).encode := by
  have hanswer : runGrep [word] fs =
      .ok (if found.isEmpty then noMatchesMessage (Text.lowercase word)
        else (Payload.grep found).encode) := by
    simp only [runGrep, FileSystem.here_eq_ok_iff.mpr hfs, hfound]
    cases found <;> rfl
  have haction : (grep.action [word] fs clipboard).1 = (runGrep [word] fs).map (⟨·, fs⟩) := rfl
  rw [hanswer] at haction
  exact congrArg (·.answer.output) (run_of_action_eq_ok haction)

/-- What a search answers, by the hits in the files of the directory. -/
theorem output_grep_hits {fs : FileSystem} {here : Entries} (hfs : fs.here? = some here)
    (htext : Entries.TextOnly here) (clipboard : Clipboard) (word : String) :
    (registry.run ⟨"grep", [word]⟩ fs clipboard).answer.output =
      let found := hits (Text.lowercase word) (Entries.files here)
      if found.isEmpty then noMatchesMessage (Text.lowercase word)
      else (Payload.grep (found.map (Hit.toMatch (Text.lowercase word)))).encode := by
  obtain ⟨found, hfound⟩ := exists_searchFiles_eq_ok (Text.lowercase word) htext
  rw [output_grep hfs hfound clipboard, searchFiles_eq hfound, List.isEmpty_map]

/-- A front end reads the hits in legible files from an answer. -/
theorem read_encode_hits {here : Entries} (hlegible : Entries.Legible here) (keyword : String) :
    let found := (hits keyword (Entries.files here)).map (Hit.toMatch keyword)
    Reply.read (Payload.grep found).encode = .ok (.payload (.grep found)) := by
  obtain ⟨found, hfound⟩ := exists_searchFiles_eq_ok keyword hlegible.textOnly
  rw [← searchFiles_eq hfound]
  exact (wellTyped_of_searchFiles hfound hlegible).read_encode trivial

/-- **A search reports exactly the matching lines.** In a directory below which no name holds a
slash, a search for a word answers that there are no matches if the tree has no hit for the word in
lowercase, and only then. Otherwise it answers a list of hits: those that the tree has and no
others, each line of a file once, in the order of the files and of their lines. A front end reads
this list from the answer. -/
theorem read_grep {fs : FileSystem} {here : Entries} (hfs : fs.here? = some here)
    (hhere : Entries.Unambiguous here) (htext : Entries.TextOnly here)
    (hslash : ∀ name ∈ Entries.namesWithin here, '/' ∉ name.toList) (clipboard : Clipboard)
    (word : String) :
    let keyword := Text.lowercase word
    let output := (registry.run ⟨"grep", [word]⟩ fs clipboard).answer.output
    (output = noMatchesMessage keyword ↔ ¬∃ hit : Hit, hit.IsIn here keyword) ∧
    (output = noMatchesMessage keyword → Reply.read output = .ok (.plain output)) ∧
    ((∃ hit : Hit, hit.IsIn here keyword) →
      ∃ found : List Hit,
        output = (Payload.grep (found.map (Hit.toMatch keyword))).encode ∧
        (Entries.Legible here →
          Reply.read output = .ok (.payload (.grep (found.map (Hit.toMatch keyword))))) ∧
        (∀ hit, hit ∈ found ↔ hit.IsIn here keyword) ∧
        (found.map fun hit => (hit.path, hit.number)).Nodup ∧
        found.Pairwise (Hit.Before here)) := by
  intro keyword output
  have houtput : output = if (hits keyword (Entries.files here)).isEmpty
      then noMatchesMessage keyword
      else (Payload.grep ((hits keyword (Entries.files here)).map (Hit.toMatch keyword))).encode :=
    output_grep_hits hfs htext clipboard word
  have hmem (hit : Hit) : hit ∈ hits keyword (Entries.files here) ↔ hit.IsIn here keyword :=
    mem_hits_iff hhere hslash
  have hempty : (hits keyword (Entries.files here)).isEmpty = true ↔
      ¬∃ hit : Hit, hit.IsIn here keyword := by
    simp only [← hmem, List.isEmpty_iff, List.eq_nil_iff_forall_not_mem, not_exists]
  have hmessage : Text.startsWith (noMatchesMessage keyword) "No matches found for '" = true :=
    Text.startsWith_append (Text.startsWith_append (Text.startsWith_self _) _) _
  have hapart : Text.Apart "No matches found for '" payloadOpening := by decide
  refine ⟨?_, fun htold => ?_, fun hsome => ?_⟩
  · rw [← hempty, houtput]
    split
    · next hnone => exact iff_of_true rfl hnone
    · next hsome =>
        exact iff_of_false (hapart.ne hmessage (Payload.startsWith_encode _)).symm hsome
  · rw [htold]
    exact read_eq_plain (hapart.startsWith_eq_false hmessage)
  · have hpairwise := pairwise_hits hhere hslash keyword
    rw [if_neg fun hnone => hempty.mp hnone hsome] at houtput
    refine ⟨hits keyword (Entries.files here), houtput, fun hlegible => ?_, hmem, ?_, hpairwise⟩
    · rw [houtput]
      exact read_encode_hits hlegible keyword
    · exact List.pairwise_map.mpr (hpairwise.imp fun hbefore => hbefore.ne hhere)

/-- A tree with a directory between two files, one of which ends in a newline. -/
def notes : Entries :=
  [("b.txt", .ofText "one\nTwo\n"), ("more", .dir [("a", .ofText "two")]), ("z", .ofText "TWO")]

/-- The files of the tree that is searched hold text. -/
theorem legible_notes : Entries.Legible notes := by
  intro found hfound
  simp only [notes, Entries.files, Entries.nodeFiles, Node.ofText, List.map_cons, List.map_nil,
    List.append_nil, List.cons_append, List.nil_append, List.mem_cons, List.not_mem_nil,
    or_false] at hfound
  have hreadable (content : String) (h : (Text.lines content).length < 10 ^ 1) :
      Json.IsReadable (Text.lines content).length :=
    Json.isReadable_of_lt (k := 1) (by decide) h
  rcases hfound with rfl | rfl | rfl
  · exact ⟨_, rfl, hreadable _ (by decide)⟩
  · exact ⟨_, rfl, hreadable _ (by decide)⟩
  · exact ⟨_, rfl, hreadable _ (by decide)⟩

/-- A line in the middle of a file, and one in a file further down. -/
theorem read_grep_notes :
    Entries.Unambiguous notes ∧ Entries.Legible notes ∧
      (∀ name ∈ Entries.namesWithin notes, '/' ∉ name.toList) ∧
      ∃ found : List Hit,
        Reply.read (registry.run ⟨"grep", ["tWo"]⟩ ⟨notes, []⟩ .willing).answer.output =
          .ok (.payload (.grep (found.map (Hit.toMatch "two")))) ∧
        ⟨"b.txt", 2, "Two"⟩ ∈ found ∧ ⟨"more/a", 1, "two"⟩ ∈ found ∧
        found.Pairwise (Hit.Before notes) := by
  have hunambiguous : Entries.Unambiguous notes := by
    simp [notes, Entries.Unambiguous, Entries.NodeUnambiguous, Table.names, Node.ofText]
  have hslash : ∀ name ∈ Entries.namesWithin notes, '/' ∉ name.toList := by
    decide
  have hword : Text.lowercase "tWo" = "two" := by decide
  have hfile : Hit.IsIn notes "two" ⟨"b.txt", 2, "Two"⟩ :=
    ⟨"one\nTwo\n", .file rfl, by decide, by decide, by decide⟩
  have hbelow : Hit.IsIn notes "two" ⟨"more/a", 1, "two"⟩ :=
    ⟨"two", .down rfl (.file rfl), by decide, by decide, by decide⟩
  have hroot : FileSystem.here? ⟨notes, []⟩ = some notes := rfl
  obtain ⟨-, -, hreported⟩ :=
    read_grep hroot hunambiguous legible_notes.textOnly hslash .willing "tWo"
  rw [hword] at hreported
  obtain ⟨found, -, hread, hmem, -, hordered⟩ := hreported ⟨_, hfile⟩
  exact ⟨hunambiguous, legible_notes, hslash, found, hread legible_notes, (hmem _).mpr hfile,
    (hmem _).mpr hbelow, hordered⟩

end Builtin

end VitaeShell
