import VitaeShell.Proofs.Command.Search
import VitaeShell.Proofs.Text.Lowercase

/-!
# Words that stand in a line

A search looks for the lowercase of a word in the lowercase of each line. A line in which the word
stands letter by letter is therefore reported, but for one letter: a capital sigma that is final in
the word and not in the line, or the other way round, has two lowercases. Where the word does not
keep its sigmas, the lowercase of the line has something else in its place, and the line is reported
only if the keyword stands elsewhere.

## Main results

* `mem_hits_line_iff`: the lines that are reported.
* `reported_of_keepsSigmas`: a line is reported for a word that stands in it and keeps its sigmas,
  and the search does not find the word where it does not.
* `output_grep_overlooked`: a line that is nothing but the word and one more letter is overlooked.
-/

namespace VitaeShell.Builtin

/-- A line of a file is reported exactly if its lowercase has the keyword. -/
theorem mem_hits_line_iff {here : Entries} {path : Path} {content keyword line : String} {i : Nat}
    (hholds : here.Holds path (.text content)) (hline : (Text.lines content)[i]? = some line) :
    ⟨String.intercalate "/" path, i + 1, line⟩ ∈ hits keyword (Entries.files here) ↔
      keyword.toList <:+: Text.lower line.toList := by
  rw [mem_hits]
  constructor
  · -- whichever file the hit is in, it is this line
    rintro ⟨path', content', -, hhit⟩
    exact (mem_hitsIn_iff.mp hhit).2.2.2
  · intro hinfix
    exact ⟨path, content, hholds.mem_files, mem_hitsIn_iff.mpr ⟨rfl, Nat.succ_pos i, hline, hinfix⟩⟩

/-- **A search reports the lines in which its word stands and keeps its sigmas.** It answers that
there are no matches, or a list of them, and of the lines below the directory the list has those
whose lowercase has the lowercase of the word. A line in which the word stands is one of them if the
word keeps its sigmas there. Where it does not, the lowercase of the line has something else. -/
theorem reported_of_keepsSigmas {fs : FileSystem} {here : Entries} (hfs : fs.here? = some here)
    (htext : Entries.TextOnly here) (clipboard : Clipboard) (word : String) :
    let keyword := Text.lowercase word
    let output := (registry.run ⟨"grep", [word]⟩ fs clipboard).answer.output
    ∃ found : List Hit,
      (found = [] → output = noMatchesMessage keyword) ∧
      (found ≠ [] →
        output = (Payload.grep (found.map (Hit.toMatch keyword))).encode ∧
        (Entries.Legible here →
          Reply.read output = .ok (.payload (.grep (found.map (Hit.toMatch keyword)))))) ∧
      ∀ path content i line, here.Holds path (.text content) →
        (Text.lines content)[i]? = some line →
        (⟨String.intercalate "/" path, i + 1, line⟩ ∈ found ↔
          keyword.toList <:+: Text.lower line.toList) ∧
        ∀ front behind, line.toList = front ++ word.toList ++ behind →
          (Text.KeepsSigmas front word.toList behind →
            ⟨String.intercalate "/" path, i + 1, line⟩ ∈ found) ∧
          (keyword.toList <+: (Text.lower line.toList).drop (Text.lower front).length ↔
            Text.KeepsSigmas front word.toList behind) := by
  intro keyword output
  have houtput : output = if (hits keyword (Entries.files here)).isEmpty
      then noMatchesMessage keyword
      else (Payload.grep ((hits keyword (Entries.files here)).map (Hit.toMatch keyword))).encode :=
    output_grep_hits hfs htext clipboard word
  refine ⟨hits keyword (Entries.files here), fun hnone => ?_, fun hsome => ?_, ?_⟩
  · rw [houtput, hnone]
    rfl
  · have hanswer := houtput.trans (if_neg (by rwa [List.isEmpty_iff]))
    refine ⟨hanswer, fun hlegible => ?_⟩
    rw [hanswer]
    exact read_encode_hits hlegible keyword
  · intro path content i line hholds hline
    refine ⟨mem_hits_line_iff hholds hline, fun front behind hcut => ?_⟩
    have hplace : keyword.toList <+: (Text.lower line.toList).drop (Text.lower front).length ↔
        Text.KeepsSigmas front word.toList behind := by
      rw [hcut, Text.toList_lowercase, Text.prefix_drop_lower_iff]
    refine ⟨fun hkeeps => ?_, hplace⟩
    rw [mem_hits_line_iff hholds hline]
    exact (hplace.mpr hkeeps).isInfix.trans (List.drop_suffix _ _).isInfix

/-- A tree with a Greek line, in which a word begins and ends with a sigma. -/
def letters : Entries :=
  [("letters", .dir [("first", .ofText "one\nΟ ΣΑΣ, ΝΑΙ")])]

/-- The sigmas at both ends of the word are what they are on their own. -/
theorem reported_of_keepsSigmas_letters :
    FileSystem.here? ⟨letters, []⟩ = some letters ∧ Entries.TextOnly letters ∧
      letters.Holds ["letters", "first"] (.text "one\nΟ ΣΑΣ, ΝΑΙ") ∧
      Text.KeepsSigmas "Ο ".toList "ΣΑΣ".toList ", ΝΑΙ".toList ∧
      ∃ found : List Hit, ⟨"letters/first", 2, "Ο ΣΑΣ, ΝΑΙ"⟩ ∈ found ∧
        (registry.run ⟨"grep", ["ΣΑΣ"]⟩ ⟨letters, []⟩ .willing).answer.output =
          (Payload.grep (found.map (Hit.toMatch "σας"))).encode := by
  have hfs : FileSystem.here? ⟨letters, []⟩ = some letters := rfl
  have htext : Entries.TextOnly letters := by
    simp [letters, Entries.TextOnly, Entries.files, Entries.nodeFiles, Node.ofText]
  have hholds : letters.Holds ["letters", "first"] (.text "one\nΟ ΣΑΣ, ΝΑΙ") :=
    .down rfl (.file rfl)
  have hkeeps : Text.KeepsSigmas "Ο ".toList "ΣΑΣ".toList ", ΝΑΙ".toList := by
    rw [← Text.lowerWithin_eq_lower_iff]
    decide +kernel
  have hword : Text.lowercase "ΣΑΣ" = "σας" := by decide +kernel
  obtain ⟨found, -, hanswer, hlines⟩ := reported_of_keepsSigmas hfs htext .willing "ΣΑΣ"
  obtain ⟨-, hplaces⟩ := hlines _ _ 1 "Ο ΣΑΣ, ΝΑΙ" hholds (by decide +kernel)
  have hfound := (hplaces _ _ (by decide +kernel)).1 hkeeps
  rw [hword] at hanswer
  exact ⟨hfs, htext, hholds, hkeeps, found, hfound, (hanswer (List.ne_nil_of_mem hfound)).1⟩

/-- A file of one line, a word with a sigma in the middle. -/
def oneWord : Entries :=
  [("a", .ofText "ΑΣΑ")]

/-- **A line with the word and one more letter is overlooked**: the sigma is final in the word and
not in the line. -/
theorem output_grep_overlooked :
    FileSystem.here? ⟨oneWord, []⟩ = some oneWord ∧ oneWord.Holds ["a"] (.text "ΑΣΑ") ∧
      (Text.lines "ΑΣΑ")[0]? = some "ΑΣΑ" ∧ "ΑΣΑ".toList = [] ++ "ΑΣ".toList ++ ['Α'] ∧
      (registry.run ⟨"grep", ["ΑΣ"]⟩ ⟨oneWord, []⟩ .willing).answer.output =
        "No matches found for 'ας'" := by
  have hfs : FileSystem.here? ⟨oneWord, []⟩ = some oneWord := rfl
  have htext : Entries.TextOnly oneWord := by
    simp [oneWord, Entries.TextOnly, Entries.files, Entries.nodeFiles, Node.ofText]
  have hnone : hits (Text.lowercase "ΑΣ") (Entries.files oneWord) = [] := by decide +kernel
  refine ⟨hfs, .file rfl, by decide +kernel, by decide, ?_⟩
  rw [output_grep_hits hfs htext .willing, hnone]
  decide +kernel

end VitaeShell.Builtin
