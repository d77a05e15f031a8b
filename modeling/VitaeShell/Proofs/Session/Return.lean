import VitaeShell.Proofs.Line.Argument
import VitaeShell.Proofs.Resume.Directories
import VitaeShell.Proofs.Session.Residence
import VitaeShell.Resume.Sample

/-!
# Going back

What `pwd` prints in one state of a session can be given to `cd` in any other state, as it is and
without quotes, and leads back to the same directory. The path text has to pass through the reader
of lines and the resolution of paths for that, and comes through both because the names of
directories are safe and lead down (`Document.isSegment_of_mem_directories`,
`Document.isStep_of_mem_directories`).

## Main results

* `Reached.mem_directories`: the current path is made of names of directories.
* `submitLine_cd_pwd`: `cd` goes back to where `pwd` was asked.
-/

namespace VitaeShell.Session

variable {document : Document} {s : Session}

/-- **The current path is made of names of directories.** -/
theorem Reached.mem_directories (hs : Reached ⟨document, Builtin.registry⟩ s) :
    ∀ name ∈ s.fs.cwd, name ∈ Entries.directoriesWithin document.file.1.root := by
  obtain ⟨hroot, place, hplace⟩ := hs.resident
  rw [← hroot]
  exact hplace.mem_directoriesWithin

/-- The current path can stand in a line as it is. -/
theorem Reached.parse_cd (hs : Reached ⟨document, Builtin.registry⟩ s) :
    CommandLine.parse ("cd " ++ Path.format s.fs.cwd) =
      ⟨Builtin.cd.name, [Path.format s.fs.cwd]⟩ := by
  have hword : ∀ c ∈ "cd".toList, isWordChar c = true := List.all_eq_true.mp (by decide)
  have hpath : ∀ c ∈ (Path.format s.fs.cwd).toList, isWordChar c = true :=
    Path.isWordChar_of_mem_format fun name hname =>
      Document.isSegment_of_mem_directories (hs.mem_directories name hname)
  have hslash : '/' ∈ (Path.format s.fs.cwd).toList := by simp [Path.format]
  have hlower : Text.lowercase "cd" = "cd" := by decide
  have hparse : CommandLine.parse ("cd" ++ " " ++ Path.format s.fs.cwd) =
      ⟨Text.lowercase "cd", [Path.format s.fs.cwd]⟩ :=
    CommandLine.parse_path (by decide) hword hpath hslash
  rw [hlower] at hparse
  exact hparse

/-- The text of the current path leads to the current directory from wherever it is resolved. -/
theorem Reached.resolve_format (hs : Reached ⟨document, Builtin.registry⟩ s) (cwd : Path) :
    Path.resolve cwd (Path.format s.fs.cwd) = s.fs.cwd :=
  Path.resolve_format (fun name hname =>
    Document.isStep_of_mem_directories (hs.mem_directories name hname)) cwd

/-- `pwd` prints the current path, and moves nowhere. -/
theorem submitLine_pwd (document : Document) (s : Session) (clipboard : Clipboard) :
    (s.submitLine ⟨document, Builtin.registry⟩ clipboard "pwd").result = Path.format s.fs.cwd ∧
      (s.submitLine ⟨document, Builtin.registry⟩ clipboard "pwd").session.fs = s.fs := by
  have hparse : CommandLine.parse "pwd" = ⟨Builtin.pwd.name, []⟩ := by decide +kernel
  have haction : (Builtin.pwd.action [] s.fs clipboard).1 = .ok ⟨Path.format s.fs.cwd, s.fs⟩ := rfl
  rw [submitLine_result, submitLine_fs, hparse]
  simp only [Builtin.run_of_action_eq_ok haction, and_self]

/-- The current path of one state is entered in another one of the same tree. -/
theorem Reached.enter_eq {there : Session} (hs : Reached ⟨document, Builtin.registry⟩ s)
    (hthere : Reached ⟨document, Builtin.registry⟩ there) :
    there.fs.enter (Path.format s.fs.cwd) = .ok s.fs := by
  obtain ⟨hroot, place, hplace⟩ := hs.resident
  obtain ⟨hroot', -⟩ := hthere.resident
  rw [FileSystem.enter_eq_ok_iff, hs.resolve_format there.fs.cwd, hroot', ← hroot]
  exact ⟨⟨place, hplace⟩, rfl⟩

/-- **Going back.** What `pwd` prints in a reached state takes every other reached state of the same
document to where it was printed, when it is given to `cd` without quotes. Both `cd` and a `pwd`
after it print that path. -/
theorem submitLine_cd_pwd (hs : Reached ⟨document, Builtin.registry⟩ s) {there : Session}
    (hthere : Reached ⟨document, Builtin.registry⟩ there)
    (clipboard clipboard' clipboard'' : Clipboard) :
    let setting : Setting := ⟨document, Builtin.registry⟩
    let place := (s.submitLine setting clipboard "pwd").result
    let moved := there.submitLine setting clipboard' ("cd " ++ place)
    moved.session.fs = s.fs ∧
      moved.result = "Changed directory to " ++ place ∧
      (moved.session.submitLine setting clipboard'' "pwd").result = place := by
  intro setting place moved
  have hplace : place = Path.format s.fs.cwd := (submitLine_pwd document s clipboard).1
  have haction : (Builtin.cd.action [place] there.fs clipboard').1 =
      .ok ⟨"Changed directory to " ++ place, s.fs⟩ := by
    simp only [Builtin.action, Builtin.runCd, List.head?_cons, Option.getD_some, hplace,
      hs.enter_eq hthere]
  have hparse : CommandLine.parse ("cd " ++ place) = ⟨Builtin.cd.name, [place]⟩ := by
    rw [hplace]
    exact hs.parse_cd
  have hrun : (setting.registry.run (.parse ("cd " ++ place)) there.fs clipboard').answer =
      ⟨"Changed directory to " ++ place, s.fs⟩ := by
    rw [hparse, Builtin.run_of_action_eq_ok haction]
  have hfs : moved.session.fs = s.fs := by
    rw [submitLine_fs, hrun]
  refine ⟨hfs, ?_, ?_⟩
  · rw [submitLine_result, hrun]
  · rw [(submitLine_pwd document moved.session clipboard'').1, hfs, hplace]

/-- The terminal of the sample résumé. -/
def sampleSetting : Setting :=
  ⟨.ofResume .sample, Builtin.registry⟩

/-- A session that has gone down to the second position. -/
def atPosition : Session :=
  ((start sampleSetting).1.step sampleSetting .willing
    (.script ["cd experience", "cd Contoso_Ltd._2"])).session

/-- A session that has gone to the skills. -/
def atSkills : Session :=
  ((start sampleSetting).1.step sampleSetting .willing (.submit (some "cd skills"))).session

/-- From another directory the same path leads back to the directory of a job. -/
theorem submitLine_cd_pwd_atPosition :
    Reached sampleSetting atPosition ∧ Reached sampleSetting atSkills ∧
      atSkills.fs.cwd = ["skills"] ∧
      (atSkills.submitLine sampleSetting .willing
        "cd /experience/Contoso_Ltd._2").session.fs.cwd = ["experience", "Contoso_Ltd._2"] := by
  have hposition : Reached sampleSetting atPosition := .step .willing _ .start
  have hskills : Reached sampleSetting atSkills := .step .willing _ .start
  have hcwd : atPosition.fs.cwd = ["experience", "Contoso_Ltd._2"] := by decide +kernel
  have hline : "cd " ++ (atPosition.submitLine sampleSetting .willing "pwd").result =
      "cd /experience/Contoso_Ltd._2" := by
    rw [sampleSetting, (submitLine_pwd _ atPosition .willing).1, hcwd]
    decide
  have hmoved : (atSkills.submitLine sampleSetting .willing
      ("cd " ++ (atPosition.submitLine sampleSetting .willing "pwd").result)).session.fs =
        atPosition.fs :=
    (submitLine_cd_pwd hposition hskills .willing .willing .willing).1
  rw [hline] at hmoved
  refine ⟨hposition, hskills, by decide +kernel, ?_⟩
  rw [hmoved, hcwd]

end VitaeShell.Session
