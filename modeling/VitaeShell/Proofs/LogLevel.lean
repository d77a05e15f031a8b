import VitaeShell.LogLevel
import VitaeShell.Proofs.Table
import VitaeShell.Proofs.Text.Uppercase

/-!
# What the name of a level is taken for

A text may name a level in capitals or in small letters; one that names none leaves the default
(`meant`). Where the text was given decides how it is looked up: a text of the settings file as it
is written, and one of the environment or of the command line in uppercase (`Place.spelling`). Among
the names are also such as stand for something else than a level. So a text can be taken for
something else than it means (`Misleads`): from the file if it is written in the wrong case or is a
name of another kind, and from elsewhere only if it is one of two such names.

## Main results

* `named?_eq_lookup`: the level that a text names is that of its uppercase.
* `ofName_eq_ok_meant_iff`: a text is taken for the level it means unless it misleads.
-/

namespace VitaeShell.LogLevel

/-! ### Levels and other names -/

/-- The names of the levels. -/
def standard : List (String × Nat) :=
  [("CRITICAL", 50), ("FATAL", 50), ("ERROR", 40), ("WARNING", 30), ("WARN", 30), ("INFO", 20),
    ("DEBUG", 10), ("NOTSET", 0)]

/-- The names of switches that are taken for the level one. -/
def switches : List String :=
  ["raiseExceptions", "logThreads", "logProcesses", "logMultiprocessing"]

/-- The names of levels are the standard ones and the switches. -/
theorem levels_eq : levels = standard ++ switches.map (·, 1) := rfl

/-- The level that a text names, where capitals and small letters are the same. -/
def named? (text : String) : Option Nat :=
  (standard.find? fun entry => Text.uppercase entry.1 = Text.uppercase text).map (·.2)

/-- The level that a text means: the one that it names, or else the default. -/
def meant (text : String) : Nat :=
  (named? text).getD default

/-- A place where a level can be given. -/
inductive Place where
  | file
  | environment
  | option
deriving DecidableEq, Repr

/-- What a text is looked up as, if it is given at a place. -/
def Place.spelling : Place → String → String
  | .file, text => text
  | .environment, text | .option, text => Text.uppercase text

/-- A text **misleads** at a place if it is taken there for something else than it means. -/
inductive Misleads : Place → String → Prop
  /-- The name of something that is no level. -/
  | reserved {text : String} : text ∈ reservedTexts ++ reservedNames → Misleads .file text
  /-- The name of a switch. -/
  | switch {text : String} : text ∈ switches → Misleads .file text
  /-- The name of a level, not all in capitals, unless it is one of the default level. -/
  | otherCase {text : String} : text ∉ Table.names standard → meant text ≠ default →
      Misleads .file text
  /-- One of the two names all in capitals of something that is no level. -/
  | capitals {place : Place} {text : String} : place ≠ .file →
      Text.uppercase text ∈ ["BASIC_FORMAT", "_STYLES"] → Misleads place text

/-! ### The level that a text names -/

/-- The names of the levels are all in capitals. -/
theorem uppercase_eq_of_mem_standard : ∀ entry ∈ standard, Text.uppercase entry.1 = entry.1 := by
  decide +kernel

/-- Among names in capitals a text is found whatever its case by looking its uppercase up. -/
theorem map_find?_eq_lookup {entries : List (String × Nat)}
    (h : ∀ entry ∈ entries, Text.uppercase entry.1 = entry.1) (text : String) :
    (entries.find? fun entry => Text.uppercase entry.1 = Text.uppercase text).map (·.2) =
      entries.lookup (Text.uppercase text) := by
  induction entries with
  | nil => rfl
  | cons entry entries ih =>
      obtain ⟨hentry, hentries⟩ := List.forall_mem_cons.mp h
      rw [List.find?_cons, List.lookup_cons, hentry]
      by_cases hname : entry.1 = Text.uppercase text
      · simp [hname]
      · have hne : (Text.uppercase text == entry.1) = false := by simpa using Ne.symm hname
        simp only [hname, decide_false, hne]
        exact ih hentries

/-- **The level that a text names is that of its uppercase.** -/
theorem named?_eq_lookup (text : String) : named? text = standard.lookup (Text.uppercase text) :=
  map_find?_eq_lookup uppercase_eq_of_mem_standard text

/-! ### What a name stands for -/

/-- Each standard name has one level. -/
theorem mem_standard_iff {name : String} {level : Nat} :
    (name, level) ∈ standard ↔ standard.lookup name = some level :=
  (Table.lookup_eq_some_iff_mem (by decide)).symm

/-- What a name **stands for**: a level, a switch, something else, or nothing. -/
inductive StandsFor (name : String) : Except Fault Nat → Prop
  | level {level : Nat} : (name, level) ∈ standard → StandsFor name (.ok level)
  | switch : name ∈ switches → StandsFor name (.ok 1)
  | reserved {fault : Fault} : name ∈ reservedTexts ++ reservedNames →
      StandsFor name (.error fault)
  | unknown : name ∉ Table.names standard → name ∉ switches →
      name ∉ reservedTexts ++ reservedNames → StandsFor name (.ok default)

/-- A name stands for the level that is found under it. -/
theorem standsFor_ofName (name : String) : StandsFor name (ofName name) := by
  have hnames : Table.names (switches.map (·, 1)) = switches := rfl
  rw [ofName, levels_eq, List.lookup_append]
  cases hlevel : standard.lookup name with
  | some level => exact .level (mem_standard_iff.mpr hlevel)
  | none =>
      rw [Option.none_or]
      cases hswitch : (switches.map (·, 1)).lookup name with
      | some one =>
          have hmem : (name, one) ∈ switches.map (·, 1) :=
            (Table.lookup_eq_some_iff_mem (by decide)).mp hswitch
          obtain ⟨other, hother, heq⟩ := List.mem_map.mp hmem
          cases heq
          exact .switch hother
      | none =>
          rw [Table.lookup_eq_none_iff] at hlevel hswitch
          simp only [List.contains_iff_mem]
          by_cases htext : name ∈ reservedTexts
          · rw [if_pos htext]
            exact .reserved (List.mem_append_left _ htext)
          · by_cases hname : name ∈ reservedNames
            · rw [if_neg htext, if_pos hname]
              exact .reserved (List.mem_append_right _ hname)
            · rw [if_neg htext, if_neg hname]
              exact .unknown hlevel (hnames ▸ hswitch) (by simp [htext, hname])

/-- No level shares its name with anything else. -/
theorem notMem_of_mem_standard : ∀ entry ∈ standard,
    entry.1 ∉ switches ∧ entry.1 ∉ reservedTexts ++ reservedNames := by
  decide +kernel

/-! ### Texts that mislead -/

variable {place : Place} {text : String} {level : Nat}

/-- In a file a text misleads if it is a reserved name or a switch, or if it means another level
than the default without being its name in capitals. -/
theorem misleads_file_iff : Misleads .file text ↔
    text ∈ reservedTexts ++ reservedNames ∨ text ∈ switches ∨
      text ∉ Table.names standard ∧ meant text ≠ default := by
  constructor
  · rintro (hreserved | hswitch | ⟨hother, hmeant⟩ | ⟨hplace, -⟩)
    · exact .inl hreserved
    · exact .inr (.inl hswitch)
    · exact .inr (.inr ⟨hother, hmeant⟩)
    · exact absurd rfl hplace
  · rintro (hreserved | hswitch | ⟨hother, hmeant⟩)
    · exact .reserved hreserved
    · exact .switch hswitch
    · exact .otherCase hother hmeant

/-- Only two of the names that stand for no level have no small letter in them. -/
theorem uppercase_mem_iff :
    Text.uppercase text ∈ switches ++ (reservedTexts ++ reservedNames) ↔
      Text.uppercase text ∈ ["BASIC_FORMAT", "_STYLES"] := by
  constructor
  · intro h
    have hsmall : ((switches ++ (reservedTexts ++ reservedNames)).all fun name =>
        name.toList.any Char.isLower || ["BASIC_FORMAT", "_STYLES"].contains name) = true := by
      decide +kernel
    rcases Bool.or_eq_true_iff.mp (List.all_eq_true.mp hsmall _ h) with hlower | hcapitals
    · obtain ⟨c, hc, hlower⟩ := List.any_eq_true.mp hlower
      exact absurd hc (Text.notMem_uppercase hlower text)
    · exact List.contains_iff_mem.mp hcapitals
  · intro h
    have hmem : ∀ name ∈ ["BASIC_FORMAT", "_STYLES"],
        name ∈ switches ++ (reservedTexts ++ reservedNames) := by
      decide +kernel
    exact hmem _ h

/-- Elsewhere a text misleads exactly if its capitals are a switch or a reserved name. -/
theorem misleads_iff_of_ne_file (hplace : place ≠ .file) : Misleads place text ↔
    Text.uppercase text ∈ switches ++ (reservedTexts ++ reservedNames) := by
  rw [uppercase_mem_iff]
  constructor
  · intro h
    cases h with
    | capitals _ hcapitals => exact hcapitals
    | reserved _ => exact absurd rfl hplace
    | switch _ => exact absurd rfl hplace
    | otherCase _ _ => exact absurd rfl hplace
  · exact .capitals hplace

/-! ### What a text is taken for -/

/-- A text whose uppercase is the name of a level means that level. -/
theorem meant_of_uppercase_mem (h : (Text.uppercase text, level) ∈ standard) :
    meant text = level := by
  rw [meant, named?_eq_lookup, mem_standard_iff.mp h, Option.getD_some]

/-- The name of a level as it is written means that level. -/
theorem meant_of_mem (h : (text, level) ∈ standard) : meant text = level := by
  have hcapitals : Text.uppercase text = text := uppercase_eq_of_mem_standard (text, level) h
  exact meant_of_uppercase_mem (hcapitals.symm ▸ h)

/-- No text means what a switch is taken for. -/
theorem meant_ne_one (text : String) : meant text ≠ 1 := by
  have hlevels : ∀ entry ∈ standard, entry.2 ≠ 1 := by decide
  rw [meant, named?_eq_lookup]
  cases h : standard.lookup (Text.uppercase text) with
  | none => decide
  | some level => exact hlevels _ (mem_standard_iff.mpr h)

/-- A text of the file is taken for the level it means unless it misleads there. -/
theorem ofName_eq_ok_meant_iff_of_file : ofName text = .ok (meant text) ↔ ¬Misleads .file text := by
  rw [misleads_file_iff]
  have hstands := standsFor_ofName text
  generalize ofName text = taken at hstands
  cases hstands with
  | level hlevel =>
      obtain ⟨hswitch, hreserved⟩ := notMem_of_mem_standard _ hlevel
      refine iff_of_true (congrArg _ (meant_of_mem hlevel).symm) ?_
      rintro (h | h | ⟨h, -⟩)
      · exact hreserved h
      · exact hswitch h
      · exact h (List.mem_map_of_mem hlevel)
  | switch hswitch =>
      refine iff_of_false ?_ (fun h => h (.inr (.inl hswitch)))
      intro htaken
      exact meant_ne_one text (Except.ok.inj htaken).symm
  | reserved hreserved => exact iff_of_false nofun (fun h => h (.inl hreserved))
  | unknown hother hswitch hreserved =>
      by_cases hmeant : meant text = default
      · refine iff_of_true (congrArg _ hmeant.symm) ?_
        rintro (h | h | ⟨-, h⟩)
        · exact hreserved h
        · exact hswitch h
        · exact h hmeant
      · refine iff_of_false ?_ (fun h => h (.inr (.inr ⟨hother, hmeant⟩)))
        intro htaken
        exact hmeant (Except.ok.inj htaken).symm

/-- A text in uppercase is taken for the level it means unless it misleads away from the file. -/
theorem ofName_eq_ok_meant_iff_of_ne_file (hplace : place ≠ .file) :
    ofName (Text.uppercase text) = .ok (meant text) ↔ ¬Misleads place text := by
  have hsmall : Text.uppercase text ∉ switches := by
    have hapart : ∀ name ∈ ["BASIC_FORMAT", "_STYLES"], name ∉ switches := by decide
    intro h
    exact hapart _ (uppercase_mem_iff.mp (List.mem_append_left _ h)) h
  rw [misleads_iff_of_ne_file hplace, List.mem_append, not_or]
  have hstands := standsFor_ofName (Text.uppercase text)
  generalize ofName (Text.uppercase text) = taken at hstands
  cases hstands with
  | level hlevel =>
      exact iff_of_true (congrArg _ (meant_of_uppercase_mem hlevel).symm)
        (notMem_of_mem_standard _ hlevel)
  | switch hswitch => exact absurd hswitch hsmall
  | reserved hreserved => exact iff_of_false nofun (fun h => h.2 hreserved)
  | unknown hother _ hreserved =>
      have hmeant : meant text = default := by
        rw [meant, named?_eq_lookup, Table.lookup_eq_none_iff.mpr hother, Option.getD_none]
      exact iff_of_true (congrArg _ hmeant.symm) ⟨hsmall, hreserved⟩

/-- **A text is taken for the level it means unless it misleads.** -/
theorem ofName_eq_ok_meant_iff :
    ofName (place.spelling text) = .ok (meant text) ↔ ¬Misleads place text := by
  cases place with
  | file => exact ofName_eq_ok_meant_iff_of_file
  | environment => exact ofName_eq_ok_meant_iff_of_ne_file nofun
  | option => exact ofName_eq_ok_meant_iff_of_ne_file nofun

end VitaeShell.LogLevel
