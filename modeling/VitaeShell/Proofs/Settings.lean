import VitaeShell.Proofs.Yaml.Construction
import VitaeShell.Settings

/-!
# Settings from a file that cannot be used

A settings file that is missing, unreadable or malformed, or whose value is no mapping, changes
nothing: the settings are those of an absent file under the same environment (`Unusable`). But not
every such file is survived. Of the faults of a YAML source only one is: a file whose bytes spell no
text, a value that does not fit its tag and a nesting that is too deep all escape (`Escapes`).

## Main results

* `ends_ofFile_of_unusable`: an unusable file changes nothing, or a fault escapes from it.
* `load_eq_error_notText`: a short file whose bytes spell no text never gives settings.
* `load_cases`: the faults that escape, and what loading gives if none does.
-/

namespace VitaeShell

/-! ### Sources that spell no text -/

/-- Nothing can be read of bytes of which the first starts no character. -/
theorem Text.Source.ofBytes_of_forbidden {first : UInt8} (h : 0x80 ≤ first)
    (hforbidden : first < 0xc2 ∨ 0xf5 ≤ first) (asked : Nat) (rest : List UInt8) :
    ofBytes asked (first :: rest) = ⟨[], true⟩ := by
  have hdecode (rest : List UInt8) : decodeStart? (first :: rest) = none := by
    rw [decodeStart?.eq_def]
    exact (if_neg (UInt8.not_lt.mpr h)).trans (if_pos hforbidden)
  rw [ofBytes, Progress.read, List.nil_append, hdecode]

namespace Yaml

/-- All characters of a short text lie in the first window. -/
theorem windowed_eq_zero {n : Nat} (h : n < 2 * windowSize) : windowed n = 0 :=
  if_pos h

/-- Nothing can be read of a short source whose bytes spell no text. -/
theorem Cursor.ofSource_eq_of_broken {source : Text.Source} (hbroken : source.broken = true)
    (hshort : source.text.length < 2 * windowSize) :
    Cursor.ofSource source = { rest := [], barrier := some .notText } := by
  have hm : beforeBroken? source = some 0 := by
    rw [beforeBroken?, if_pos hbroken, windowed_eq_zero hshort]
  unfold ofSource
  extract_lets upTo
  rw [hm]
  cases hn : beforeForbidden? source.text with
  | none => rfl
  | some n => exact if_neg (Nat.not_lt_zero n)

/-- **A short source whose bytes spell no text** fails to be read for just that. -/
theorem read_eq_error_notText {source : Text.Source} (hbroken : source.broken = true)
    (hshort : source.text.length < 2 * windowSize) : read source = .error .notText := by
  have htokens : tokens source = [.unreadable .notText] := by
    rw [tokens, Cursor.ofSource_eq_of_broken hbroken hshort]
    rfl
  rw [read, htokens]
  rfl

end Yaml

namespace Settings

variable {folder : Folder} {path : String} {source : Text.Source} {fault : Yaml.Fault}
  {notices : List Notice}

/-! ### Files that cannot be used -/

/-- The text of the file at a path can be read, as far as its bytes spell one. -/
def Opens (folder : Folder) (path : String) (source : Text.Source) : Prop :=
  ∃ stored, folder.find? path = some stored ∧ Folder.sourceOf Yaml.windowSize stored = .ok source

/-- **A fault escapes** from a settings file unless the source that stands there is merely
malformed. -/
def Escapes (folder : Folder) (path : String) (fault : Yaml.Fault) : Prop :=
  fault ≠ .malformed ∧ ∃ source, Opens folder path source ∧ Yaml.read source = .error fault ∧
    Yaml.SourceFault source fault

/-- A settings file is **unusable**, and what there is to report of it. -/
inductive Unusable (folder : Folder) (path : String) : List Notice → Prop
  | missing : folder.find? path = none → Unusable folder path []
  | unreadable {stored : Stored} {fault : Folder.Fault} : folder.find? path = some stored →
      Folder.sourceOf Yaml.windowSize stored = .error fault →
      Unusable folder path [.settingsUnreadable path (.folder fault)]
  | undecodable {source : Text.Source} : Opens folder path source → source.broken = true →
      Unusable folder path [.settingsUnreadable path (.yaml .malformed)]
  | unparsed {source : Text.Source} {fault : Yaml.Fault} : Opens folder path source →
      Yaml.read source = .error fault →
      Unusable folder path [.settingsUnreadable path (.yaml .malformed)]
  | notMapping {source : Text.Source} {value : Yaml.Value} : Opens folder path source →
      Yaml.read source = .ok value → (∀ entries, value.collection? ≠ some (.mapping entries)) →
      Unusable folder path (if value.isSubstantial then [.settingsNotMapping path] else [])

/-- A value that is read gives settings. -/
theorem ofFile_of_read_eq_ok {value : Yaml.Value} (h : Opens folder path source)
    (hread : Yaml.read source = .ok value) : ofFile folder path = .ok (ofValue path value) := by
  obtain ⟨stored, hfound, hsource⟩ := h
  simp only [ofFile, hfound, hsource, hread]

/-- What is not merely malformed escapes. -/
theorem Escapes.ofFile_eq (h : Escapes folder path fault) : ofFile folder path = .error fault := by
  obtain ⟨hmalformed, source, ⟨stored, hfound, hsource⟩, hread, -⟩ := h
  simp only [ofFile, hfound, hsource, hread]

/-- A source without a value changes nothing, or its fault escapes. -/
theorem ends_ofFile_of_read_eq_error (h : Opens folder path source)
    (hread : Yaml.read source = .error fault) :
    Ends (Escapes folder path) (· = ({}, [.settingsUnreadable path (.yaml .malformed)]))
      (ofFile folder path) := by
  by_cases hmalformed : fault = .malformed
  · obtain ⟨stored, hfound, hsource⟩ := h
    subst hmalformed
    simp only [ofFile, hfound, hsource, hread]
    exact .ok rfl
  · have hfault : Yaml.SourceFault source fault := (hread ▸ Yaml.ends_read source).of_error
    have hescapes : Escapes folder path fault := ⟨hmalformed, source, h, hread, hfault⟩
    rw [hescapes.ofFile_eq]
    exact .error hescapes

/-- A value that is no mapping sets nothing. -/
theorem ofValue_of_forall_ne {value : Yaml.Value}
    (h : ∀ entries, value.collection? ≠ some (.mapping entries)) :
    ofValue path value = ({}, if value.isSubstantial then [.settingsNotMapping path] else []) := by
  rw [ofValue]
  split
  · next entries hentries => exact absurd hentries (h entries)
  · rfl

/-- **An unusable file** changes nothing, or a fault escapes from it. -/
theorem ends_ofFile_of_unusable (h : Unusable folder path notices) :
    Ends (Escapes folder path) (· = ({}, notices)) (ofFile folder path) := by
  cases h with
  | missing hnone =>
      rw [ofFile, hnone]
      exact .ok rfl
  | unreadable hfound hfault =>
      simp only [ofFile, hfound, hfault]
      exact .ok rfl
  | @undecodable source hopens hbroken =>
      -- a value would come from bytes that all spell a text
      have hends := Yaml.ends_read source
      cases hread : Yaml.read source with
      | error fault => exact ends_ofFile_of_read_eq_error hopens hread
      | ok value =>
          rw [hread] at hends
          exact absurd hbroken (Bool.eq_false_iff.mp hends.of_ok)
  | unparsed hopens hread => exact ends_ofFile_of_read_eq_error hopens hread
  | notMapping hopens hread hvalue =>
      rw [ofFile_of_read_eq_ok hopens hread]
      exact .ok (ofValue_of_forall_ne hvalue)

/-- A file gives settings, or a fault escapes from it. -/
theorem ends_ofFile (folder : Folder) (path : String) :
    Ends (Escapes folder path) (fun _ => True) (ofFile folder path) := by
  have hends {notices : List Notice} (h : Unusable folder path notices) :
      Ends (Escapes folder path) (fun _ => True) (ofFile folder path) :=
    (ends_ofFile_of_unusable h).imp (fun _ => id) fun _ _ => trivial
  cases hfound : folder.find? path with
  | none => exact hends (.missing hfound)
  | some stored =>
      cases hsource : Folder.sourceOf Yaml.windowSize stored with
      | error fault => exact hends (.unreadable hfound hsource)
      | ok source =>
          have hopens : Opens folder path source := ⟨stored, hfound, hsource⟩
          cases hread : Yaml.read source with
          | error fault => exact hends (.unparsed hopens hread)
          | ok value =>
              rw [ofFile_of_read_eq_ok hopens hread]
              exact .ok trivial

/-! ### Under an environment -/

/-- The environment has its say after the file. -/
theorem load_eq_map (folder : Folder) (path : String) (environment : Environment) :
    load folder path environment =
      (ofFile folder path).map fun found => (found.1.underEnvironment environment, found.2) := by
  rw [load]
  cases ofFile folder path <;> rfl

/-- **An absent file** leaves the settings to the environment. -/
theorem load_of_absent (hnone : folder.find? path = none) (environment : Environment) :
    load folder path environment = .ok (({} : Settings).underEnvironment environment, []) := by
  rw [load_eq_map, ofFile, hnone]
  rfl

/-- Loading fails exactly with the faults that escape. -/
theorem load_eq_error_iff_escapes (environment : Environment) :
    load folder path environment = .error fault ↔ Escapes folder path fault := by
  rw [load_eq_map, map_eq_error_iff]
  exact ⟨fun hfile => (hfile ▸ ends_ofFile folder path).of_error, Escapes.ofFile_eq⟩

/-- **A short file whose bytes spell no text** gives no settings under any environment. -/
theorem load_eq_error_notText (h : Opens folder path source) (hbroken : source.broken = true)
    (hshort : source.text.length < 2 * Yaml.windowSize) (environment : Environment) :
    load folder path environment = .error .notText :=
  (load_eq_error_iff_escapes environment).mpr
    ⟨nofun, source, h, Yaml.read_eq_error_notText hbroken hshort, .notText hbroken⟩

/-- Where loading gives settings although the file is unusable, they are those of an absent file. -/
theorem eq_of_load_of_unusable (h : Unusable folder path notices) {environment : Environment}
    {found : Settings × List Notice} (hload : load folder path environment = .ok found) :
    found = (({} : Settings).underEnvironment environment, notices) := by
  rw [load_eq_map] at hload
  obtain ⟨given, hfile, rfl⟩ := exists_of_map_eq_ok hload
  obtain rfl := (hfile ▸ ends_ofFile_of_unusable h).of_ok
  rfl

/-- **Loading settings** fails exactly with the faults that escape. If none does it gives settings,
and those of an unusable file are the ones of an absent file under the same environment. -/
theorem load_cases (folder : Folder) (path : String) (environment : Environment) :
    (∀ fault, load folder path environment = .error fault ↔ Escapes folder path fault) ∧
      ((∀ fault, ¬Escapes folder path fault) →
        ∃ found, load folder path environment = .ok found) ∧
      ∀ notices, Unusable folder path notices →
        ∀ found, load folder path environment = .ok found → found.2 = notices ∧
          ∀ (other : Folder) (name : String), other.find? name = none →
            load other name environment = .ok (found.1, []) := by
  refine ⟨fun fault => load_eq_error_iff_escapes environment, fun hnone => ?_,
    fun notices hunusable found hload => ?_⟩
  · cases hload : load folder path environment with
    | ok found => exact ⟨found, rfl⟩
    | error fault => exact absurd ((load_eq_error_iff_escapes environment).mp hload) (hnone fault)
  · obtain rfl := eq_of_load_of_unusable hunusable hload
    exact ⟨rfl, fun other name habsent => load_of_absent habsent environment⟩

/-- Not every settings file is survived: a byte that starts no character escapes. -/
theorem not_exists_load_brokenByte :
    ¬∃ found, load { files := [(defaultPath, .bytes [0xff])] } defaultPath [] = .ok found := by
  have hopens : Opens { files := [(defaultPath, .bytes [0xff])] } defaultPath ⟨[], true⟩ := by
    refine ⟨.bytes [0xff], by decide, congrArg Except.ok ?_⟩
    exact Text.Source.ofBytes_of_forbidden (by decide) (by decide) _ _
  rintro ⟨found, hload⟩
  rw [load_eq_error_notText hopens rfl (by decide)] at hload
  cases hload

end Settings

end VitaeShell
