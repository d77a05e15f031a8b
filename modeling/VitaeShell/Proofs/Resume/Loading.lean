import VitaeShell.Proofs.Json.Nesting
import VitaeShell.Proofs.Yaml.Construction
import VitaeShell.Resume.Loading

/-!
# Loading a résumé does not always come back

A file that is missing, unreadable or no résumé is survived: it gives none, and one notice of an
error. A fault that is not survived escapes. It can only come from the reader of a text, and only if
the text is a JSON text that is nested too deep, or a YAML source with a hazard (`EscapesFrom`).
Whether there is a file, whether its bytes spell a text and whether its value is a résumé does not
matter: all of that is survived.

## Main results

* `ends_ofSource`: the checked value of a source.
* `ends_load`: loading comes back, or a fault escapes.
* `load_eq_error_iff`: the faults that escape, and what loading gives if none does.
-/

namespace VitaeShell.Resume

variable {folder : Folder} {path : String} {source : Text.Source} {cause : Cause}

/-! ### What is survived -/

/-- **Loading gives** a résumé and no notice, or none and one notice of an error. -/
inductive Gives : Option Resume × List Notice → Prop
  | resume (resume : Resume) : Gives (some resume, [])
  | notice {notice : Notice} : notice.level = .error →
      notice.source = "resume_terminal.loader" → Gives (none, [notice])

/-- A checked résumé is given, or what is wrong with it is reported. -/
theorem gives_ofChecked (path : String) (checked : Checked Resume) :
    Gives (ofChecked path checked) := by
  cases checked with
  | ok resume => exact .resume resume
  | error faults => exact .notice rfl rfl

/-- Of the faults of a YAML source, the mild ones are survived. -/
theorem isSurvived_yaml_iff {fault : Yaml.Fault} :
    isSurvived (.yaml fault) = true ↔ fault.Mild := by
  constructor
  · intro h
    cases fault with
    | malformed => exact .malformed
    | notText => exact .notText
    | badValue => exact .badValue
    | _ => cases h
  · rintro (_ | _ | _) <;> rfl

/-! ### What is not -/

/-- A fault **escapes from a source**, for a reason that lies in what is written there. -/
inductive EscapesFrom (path : String) (source : Text.Source) : Cause → Prop
  | json {cs : List Char} : isYamlPath path = false → source.whole? = some cs →
      Json.decodeChars cs = .error .tooDeep → Json.maxDepth < Json.openings cs →
      EscapesFrom path source (.json .tooDeep)
  | yaml {fault : Yaml.Fault} : isYamlPath path = true → Yaml.read source = .error fault →
      ¬fault.Mild → Yaml.Hazard source fault → EscapesFrom path source (.yaml fault)

/-- What escapes from a source is not survived. -/
theorem EscapesFrom.isSurvived_eq (h : EscapesFrom path source cause) :
    isSurvived cause = false := by
  cases h with
  | json => rfl
  | yaml _ _ hmild _ => rwa [← isSurvived_yaml_iff, Bool.not_eq_true] at hmild

/-- A cause that escapes from a source is what reading the source ends in. -/
theorem EscapesFrom.ofSource_eq (h : EscapesFrom path source cause) :
    ofSource path source = .error cause := by
  cases h with
  | json hpath hwhole hdeep _ =>
      rw [ofSource, hpath, if_neg Bool.false_ne_true, ofJsonSource, hwhole]
      simp only [hdeep]
      rfl
  | yaml hpath hread _ _ =>
      rw [ofSource, if_pos hpath, ofYamlSource, hread]
      rfl

/-- A fault of a source is survived, or it escapes. -/
theorem ends_ofSource (path : String) (source : Text.Source) :
    Ends (fun cause => isSurvived cause = true ∨ EscapesFrom path source cause) (fun _ => True)
      (ofSource path source) := by
  refine .ite (fun hpath => ?_) fun hpath => ?_
  · have hread := Yaml.ends_read source
    rw [ofYamlSource]
    cases h : Yaml.read source with
    | ok value => exact .ok trivial
    | error fault =>
        rw [h] at hread
        refine .error ?_
        by_cases hmild : fault.Mild
        · exact .inl (isSurvived_yaml_iff.mpr hmild)
        · exact .inr (.yaml hpath h hmild (hread.of_error.mild_or_hazard.resolve_left hmild))
  · rw [Bool.not_eq_true] at hpath
    rw [ofJsonSource]
    cases hwhole : source.whole? with
    | none => exact .error (.inl rfl)
    | some cs =>
        dsimp only
        cases h : Json.decodeChars cs with
        | ok value => exact .ok trivial
        | error fault =>
            refine .error ?_
            cases fault with
            | malformed | numeralTooLong => exact .inl rfl
            | tooDeep => exact .inr (.json hpath hwhole h (Json.lt_openings_of_decodeWithin h))

/-! ### Files -/

/-- The text of the file at a path can be read. -/
def Opens (folder : Folder) (path : String) (source : Text.Source) : Prop :=
  path ≠ "" ∧ ∃ stored, folder.find? path = some stored ∧
    Folder.sourceOf Yaml.windowSize stored = .ok source

/-- **A fault escapes** from loading if it escapes from the source that stands at the path. -/
def Escapes (folder : Folder) (path : Option String) (cause : Cause) : Prop :=
  ∃ name source, path = some name ∧ Opens folder name source ∧ EscapesFrom name source cause

/-- What becomes of a file that can be opened depends on its source alone. -/
theorem loadFile_eq_of_opens (h : Opens folder path source) :
    loadFile folder path =
      match ofSource path source with
      | .ok checked => .ok (ofChecked path checked)
      | .error cause =>
        if isSurvived cause then .ok (none, [.resumeUnreadable path cause]) else .error cause := by
  obtain ⟨-, stored, hfound, hsource⟩ := h
  cases hread : ofSource path source <;> simp only [loadFile, hfound, ofStored, hsource, hread]

/-- A cause that escapes is what loading ends in. -/
theorem Escapes.load_eq {path : Option String} (h : Escapes folder path cause) :
    load folder path = .error cause := by
  obtain ⟨name, source, rfl, hopens, hescapes⟩ := h
  rw [load, if_neg hopens.1, loadFile_eq_of_opens hopens, hescapes.ofSource_eq]
  simp [hescapes.isSurvived_eq]

/-- A file gives what it should, or a fault escapes from it. -/
theorem ends_loadFile (hnamed : path ≠ "") :
    Ends (Escapes folder (some path)) Gives (loadFile folder path) := by
  cases hfound : folder.find? path with
  | none =>
      rw [loadFile, hfound]
      exact .ok (.notice rfl rfl)
  | some stored =>
      cases hsource : Folder.sourceOf Yaml.windowSize stored with
      | error fault =>
          rw [loadFile, hfound]
          simp only [ofStored, hsource]
          exact .ok (.notice rfl rfl)
      | ok source =>
          have hopens : Opens folder path source := ⟨hnamed, stored, hfound, hsource⟩
          have hends := ends_ofSource path source
          rw [loadFile_eq_of_opens hopens]
          generalize ofSource path source = result at hends
          cases hends with
          | ok => exact .ok (gives_ofChecked _ _)
          | error hfault =>
              refine .ite (fun _ => .ok (.notice rfl rfl)) fun hsurvived => .error ?_
              exact ⟨path, source, rfl, hopens, hfault.resolve_left hsurvived⟩

/-- **Loading comes back** with what it should give, or a fault escapes. -/
theorem ends_load (folder : Folder) (path : Option String) :
    Ends (Escapes folder path) Gives (load folder path) := by
  cases path with
  | none => exact .ok (.resume _)
  | some path => exact .ite (fun _ => .ok (.resume _)) ends_loadFile

/-- **Loading** fails exactly with the faults that escape. If none does it gives a résumé and no
notice, or none and one notice of an error. -/
theorem load_eq_error_iff (folder : Folder) (path : Option String) :
    (∀ cause, load folder path = .error cause ↔ Escapes folder path cause) ∧
      ((∀ cause, ¬Escapes folder path cause) →
        ∃ found, load folder path = .ok found ∧ Gives found) := by
  have hends := ends_load folder path
  constructor
  · refine fun cause => ⟨fun hload => ?_, Escapes.load_eq⟩
    rw [hload] at hends
    exact hends.of_error
  · intro hnone
    cases hload : load folder path with
    | ok found =>
        rw [hload] at hends
        exact ⟨found, rfl, hends.of_ok⟩
    | error cause =>
        rw [hload] at hends
        exact absurd hends.of_error (hnone cause)

/-- Loading does not always come back: the fault of a truth value that is none escapes. -/
theorem not_exists_load_unknownTruthValue :
    ¬∃ found, load { files := [("r.yaml", .text "about: !!bool x\n")] } (some "r.yaml") =
      .ok found := by
  have hload : (load { files := [("r.yaml", .text "about: !!bool x\n")] } (some "r.yaml")).isOk =
      false := by decide +kernel
  rintro ⟨found, hfound⟩
  rw [hfound] at hload
  cases hload

end VitaeShell.Resume
