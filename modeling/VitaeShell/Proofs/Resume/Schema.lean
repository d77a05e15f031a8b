import Mathlib.Data.List.Nodup
import Mathlib.Data.List.Pairwise
import Mathlib.Data.Option.Basic
import Mathlib.Logic.Relation
import VitaeShell.Resume.Sample
import VitaeShell.Resume.Validation

/-!
# What a check looks at

A check asks an object for the fields of its schema, each under one spelling or under two, and for
nothing else. So an object can be given keys that the schema does not know, and a field can be
spelled in the other way, without a change in what the check says (`Resume.Revised`). This goes for
the objects of a résumé at every depth, and for values with faults as well: the faults stay what
they are, in the same order. Only the places of the faults may be named by another spelling.

A résumé that is written out has every field under its first spelling, and is checked to be itself.

## Main results

* `Resume.validate_toJson`: a résumé that was written out is checked to be that résumé.
* `Resume.readAlike_of_revised`: a revised object reads as it did before, field by field.
* `Resume.respects_validate`: a revised value is checked as it was before.
* `Resume.validate_of_known_fields`: both, in general.
-/

namespace VitaeShell

/-! ### Verdicts -/

namespace Resume.Checked

variable {α β : Type}

/-- The **verdict** of a check: what was checked, or the kinds of all faults in order. -/
def verdict (x : Checked α) : Except (List FaultKind) α :=
  x.mapError (List.map Fault.kind)

/-- Checks that **agree** have the same verdict. -/
def Agree (x y : Checked α) : Prop :=
  x.verdict = y.verdict

theorem Agree.refl (x : Checked α) : Agree x x := rfl

@[simp] theorem within_ok (step : Step) (value : α) : within step (.ok value) = .ok value := rfl

@[simp] theorem apply_ok (f : α → β) (value : α) : apply (.ok f) (.ok value) = .ok (f value) := rfl

/-- The place of a value is not part of the verdict. -/
theorem verdict_within (step : Step) (x : Checked α) : (x.within step).verdict = x.verdict := by
  cases x with
  | ok value => rfl
  | error faults => simp [within, verdict, Except.mapError, Function.comp_def]

/-- Checks agree at any two places if they agree at all. -/
theorem Agree.within {x y : Checked α} (h : Agree x y) (step step' : Step) :
    Agree (x.within step) (y.within step') := by
  rw [Agree, verdict_within, verdict_within]
  exact h

/-- Checks of two parts agree if the checks of each part do. -/
theorem Agree.apply {f f' : Checked (α → β)} {x x' : Checked α} (hf : Agree f f')
    (hx : Agree x x') : Agree (Checked.apply f x) (Checked.apply f' x') := by
  cases f <;> cases f' <;> cases x <;> cases x' <;>
    simp_all [Agree, verdict, Checked.apply, Except.mapError]

end Resume.Checked

namespace Resume

open Checked (Agree)

variable {β : Type}

/-! ### Revisions -/

/-- One field of a schema: its spellings, and in which ways its value can be revised. -/
structure Slot where
  spellings : List String
  Revised : Json → Json → Prop

/-- A field with one spelling, whose value stays as it is. -/
def Slot.plain (name : String) : Slot :=
  ⟨[name], emptyRelation⟩

/-- One **revision** of an object that is checked by a schema. -/
inductive Revised (slots : List Slot) : Json → Json → Prop where
  /-- A key that the schema does not know is put in somewhere. -/
  | add {before after : List (String × Json)} {name : String} (value : Json)
      (unknown : ∀ slot ∈ slots, name ∉ slot.spellings) :
      Revised slots (.object (before ++ after)) (.object (before ++ (name, value) :: after))
  /-- A field that is there under one spelling is put under another. -/
  | rename {slot : Slot} (known : slot ∈ slots) {before after before' after' : List (String × Json)}
      {name other : String} {value : Json} (rest : before ++ after = before' ++ after')
      (alone : ∀ field ∈ before ++ after, field.1 ∉ slot.spellings)
      (spelled : name ∈ slot.spellings) (respelled : other ∈ slot.spellings) :
      Revised slots (.object (before ++ (name, value) :: after))
        (.object (before' ++ (other, value) :: after'))
  /-- The value of a field is revised in its turn. -/
  | within {slot : Slot} (known : slot ∈ slots) {before after : List (String × Json)}
      {name : String} {value value' : Json} (spelled : name ∈ slot.spellings)
      (revised : slot.Revised value value') :
      Revised slots (.object (before ++ (name, value) :: after))
        (.object (before ++ (name, value') :: after))

/-- A revision of one item of a list. -/
inductive RevisedItem (Revised : Json → Json → Prop) : Json → Json → Prop where
  | item {before after : List Json} {value value' : Json} (revised : Revised value value') :
      RevisedItem Revised (.list (before ++ value :: after)) (.list (before ++ value' :: after))

/-- Only objects are revised. -/
theorem Revised.objects {slots : List Slot} {value value' : Json} (h : Revised slots value value') :
    ∃ fields fields', value = .object fields ∧ value' = .object fields' := by
  cases h <;> exact ⟨_, _, rfl, rfl⟩

/-! ### The schemas -/

/-- The fields of the contact part. -/
def contactSlots : List Slot :=
  [.plain "email", .plain "phone", .plain "website", .plain "linkedin", .plain "github"]

/-- The fields of the personal part. -/
def personalInfoSlots : List Slot :=
  [.plain "name", .plain "title", ⟨["contact"], Revised contactSlots⟩]

/-- The fields of a position. -/
def experienceSlots : List Slot :=
  [.plain "company", .plain "position", .plain "location",
    ⟨["startDate", "start_date"], emptyRelation⟩, ⟨["endDate", "end_date"], emptyRelation⟩,
    .plain "responsibilities"]

/-- The fields of the skills part. -/
def skillsSlots : List Slot :=
  [.plain "technical", .plain "soft"]

/-- The fields of a project. -/
def projectSlots : List Slot :=
  [.plain "name", .plain "description"]

/-- The fields of the education part. -/
def educationSlots : List Slot :=
  [.plain "university", .plain "certifications"]

/-- The fields of a résumé. -/
def resumeSlots : List Slot :=
  [⟨["personalInfo", "personal_info"], Revised personalInfoSlots⟩, .plain "about",
    ⟨["experience"], RevisedItem (Revised experienceSlots)⟩, ⟨["skills"], Revised skillsSlots⟩,
    ⟨["projects"], RevisedItem (Revised projectSlots)⟩, ⟨["education"], Revised educationSlots⟩]

/-! ### Reading a revised object -/

/-- Two objects **read alike** for a schema if every field is there in both or in neither, and its
value in the one is its value in the other, or that value revised. -/
def ReadAlike (slots : List Slot) (field field' : String → Option Json) : Prop :=
  ∀ slot ∈ slots, Option.Rel (fun found found' => Relation.ReflGen slot.Revised found.2 found'.2)
    (firstSpelling field slot.spellings) (firstSpelling field' slot.spellings)

/-- Whatever is found reads like itself. -/
theorem rel_self {R : Json → Json → Prop} (found : Option Json) :
    Option.Rel (Relation.ReflGen R) found found := by
  cases found with
  | none => exact .none
  | some value => exact .some .refl

/-- Fields that are related under each spelling are related under the first spelling. -/
theorem rel_firstSpelling {R : Json → Json → Prop} {field field' : String → Option Json} :
    ∀ {spellings : List String}, (∀ name ∈ spellings, Option.Rel R (field name) (field' name)) →
      Option.Rel (fun found found' => R found.2 found'.2) (firstSpelling field spellings)
        (firstSpelling field' spellings)
  | [], _ => .none
  | name :: others, h => by
    have hname := h name List.mem_cons_self
    have hothers := rel_firstSpelling fun other hother => h other (List.mem_cons_of_mem _ hother)
    simp only [firstSpelling, List.findSome?_cons] at hothers ⊢
    generalize field name = found, field' name = found' at hname ⊢
    cases hname with
    | none => exact hothers
    | some hvalue => exact .some hvalue

/-- A field that is there under a single spelling is found. -/
theorem firstSpelling_of_alone {field : String → Option Json} {name : String} {value : Json} :
    ∀ {spellings : List String}, name ∈ spellings →
      (∀ other ∈ spellings, field other = if other = name then some value else none) →
      firstSpelling field spellings = some (name, value)
  | other :: others, spelled, h => by
    have hother := h other List.mem_cons_self
    simp only [firstSpelling, List.findSome?_cons, hother]
    by_cases hname : other = name
    · simp [hname]
    · have hmem : name ∈ others := (List.mem_cons.1 spelled).resolve_left (Ne.symm hname)
      simpa [hname, firstSpelling] using
        firstSpelling_of_alone hmem fun s hs => h s (List.mem_cons_of_mem _ hs)

/-- Looking up a name in fields of which one stands out. -/
theorem lookup_append_cons (before after : List (String × Json)) (name s : String) (value : Json) :
    (before ++ (name, value) :: after).lookup s =
      (before.lookup s).or (if s = name then some value else after.lookup s) := by
  rw [List.lookup_append, List.lookup_cons]
  by_cases h : s = name
  · simp [h]
  · simp [h, beq_eq_false_iff_ne.2 h]

/-- A name that no field has is not found. -/
theorem lookup_eq_none_of_alone {fields : List (String × Json)} {spellings : List String}
    (alone : ∀ field ∈ fields, field.1 ∉ spellings) {s : String} (hs : s ∈ spellings) :
    fields.lookup s = none := by
  rw [List.lookup_eq_none_iff]
  rintro ⟨name, value⟩ hfield
  have hne : s ≠ name := fun h => alone _ hfield (h ▸ hs)
  simpa using hne

/-- Spellings that no two fields of a schema share. -/
def Distinct (slots : List Slot) : Prop :=
  (slots.flatMap Slot.spellings).Nodup

instance (slots : List Slot) : Decidable (Distinct slots) :=
  inferInstanceAs (Decidable (List.Nodup _))

/-- A spelling belongs to one field only. -/
theorem Distinct.eq_of_mem {slots : List Slot} (h : Distinct slots) {slot slot' : Slot}
    (hslot : slot ∈ slots) (hslot' : slot' ∈ slots) {name : String} (hname : name ∈ slot.spellings)
    (hname' : name ∈ slot'.spellings) : slot = slot' := by
  by_contra hne
  have : Std.Symm (Function.onFun List.Disjoint Slot.spellings) :=
    ⟨fun _ _ => List.disjoint_symm⟩
  exact (List.nodup_flatMap.1 h).2.forall hslot hslot' hne hname hname'

/-- A revised object reads as it did before: the fields of the schema are found as they were. -/
theorem readAlike_of_revised {slots : List Slot} (distinct : Distinct slots)
    {fields fields' : List (String × Json)}
    (h : Revised slots (.object fields) (.object fields')) :
    ReadAlike slots (fun name => fields.lookup name) fun name => fields'.lookup name := by
  intro slot hslot
  cases h with
  | @add before after name value unknown =>
    -- no spelling of the field is the new key
    refine rel_firstSpelling fun s hs => ?_
    have hne : s ≠ name := fun hname => unknown slot hslot (hname ▸ hs)
    rw [lookup_append_cons, List.lookup_append, if_neg hne]
    exact rel_self _
  | @rename known hknown before after before' after' name other value rest alone spelled
      respelled =>
    by_cases hsame : slot = known
    · subst hsame
      have hfound : ∀ {before after : List (String × Json)} {name : String},
          (∀ field ∈ before ++ after, field.1 ∉ slot.spellings) → name ∈ slot.spellings →
          firstSpelling (fun s => (before ++ (name, value) :: after).lookup s) slot.spellings =
            some (name, value) := fun alone spelled =>
        firstSpelling_of_alone spelled fun s hs => by
          have hnone := lookup_eq_none_of_alone alone hs
          rw [List.lookup_append, Option.or_eq_none_iff] at hnone
          rw [lookup_append_cons, hnone.1, hnone.2, Option.none_or]
      rw [hfound alone spelled, hfound (rest ▸ alone) respelled]
      exact .some .refl
    · -- the spellings of another field are not touched
      refine rel_firstSpelling fun s hs => ?_
      have hne : ∀ {name : String}, name ∈ known.spellings → s ≠ name := fun hname heq =>
        hsame (distinct.eq_of_mem hslot hknown hs (heq ▸ hname))
      rw [lookup_append_cons, lookup_append_cons, if_neg (hne spelled), if_neg (hne respelled),
        ← List.lookup_append, ← List.lookup_append, rest]
      exact rel_self _
  | @within known hknown before after name value value' spelled revised =>
    refine rel_firstSpelling fun s hs => ?_
    rw [lookup_append_cons, lookup_append_cons]
    by_cases hname : s = name
    · obtain rfl := distinct.eq_of_mem hslot hknown hs (hname ▸ spelled)
      rw [if_pos hname, if_pos hname]
      cases before.lookup s with
      | none => exact .some (.single revised)
      | some earlier => exact rel_self _
    · rw [if_neg hname, if_neg hname]
      exact rel_self _

/-! ### Checking a revised value -/

/-- A check **respects** revisions if it agrees on a value and on that value revised. -/
def Respects (Revised : Json → Json → Prop) (check : Json → Checked β) : Prop :=
  ∀ value value', Revised value value' → Agree (check value) (check value')

/-- Where nothing can be revised, there is nothing to respect. -/
theorem respects_emptyRelation (check : Json → Checked β) : Respects emptyRelation check :=
  fun _ _ h => h.elim

/-- A check that respects revisions agrees on a value that was revised or left as it was. -/
theorem Respects.reflGen {Revised : Json → Json → Prop} {check : Json → Checked β}
    (h : Respects Revised check) : Respects (Relation.ReflGen Revised) check
  | _, _, .refl => .refl _
  | _, _, .single hrevised => h _ _ hrevised

namespace ReadAlike

variable {slots : List Slot} {field field' : String → Option Json}

/-- A field that has to be there is checked as it was before. -/
theorem required (h : ReadAlike slots field field') (i : Nat) {name : String}
    {others : List String} {Revised : Json → Json → Prop}
    (hslot : slots[i]? = some ⟨name :: others, Revised⟩) {check : Json → Checked β}
    (hcheck : Respects Revised check) :
    Agree (Resume.required field name others check) (Resume.required field' name others check) := by
  have hfound := h _ (List.mem_of_getElem? hslot)
  simp only [Resume.required]
  generalize firstSpelling field (name :: others) = found,
    firstSpelling field' (name :: others) = found' at hfound ⊢
  cases hfound with
  | none => exact .refl _
  | some hvalue => exact .within (hcheck.reflGen _ _ hvalue) _ _

/-- A field that may be left out is checked as it was before. -/
theorem optional (h : ReadAlike slots field field') (i : Nat) {name : String}
    (hslot : slots[i]? = some (.plain name)) (default : β) (check : Json → Checked β) :
    Agree (Resume.optional field name default check)
      (Resume.optional field' name default check) := by
  have hfound := h _ (List.mem_of_getElem? hslot)
  simp only [Slot.plain, firstSpelling, List.findSome?_cons, List.findSome?_nil] at hfound
  simp only [Resume.optional]
  cases hname : field name <;> cases hname' : field' name <;>
    simp only [hname, hname', Option.map_none, Option.map_some] at hfound ⊢
  case none.none => exact .refl _
  case some.some =>
    rw [Option.rel_some_some] at hfound
    exact .within ((respects_emptyRelation check).reflGen _ _ hfound) _ _
  all_goals cases hfound

/-- A text that has to be there is checked as it was before. -/
theorem text (h : ReadAlike slots field field') (i : Nat) {name : String}
    (hslot : slots[i]? = some (.plain name)) :
    Agree (Resume.required field name [] checkText) (Resume.required field' name [] checkText) :=
  h.required i hslot (respects_emptyRelation checkText)

end ReadAlike

/-- A check that reads the fields of a schema respects revisions by that schema. -/
theorem respects_checkRecord {slots : List Slot} (distinct : Distinct slots)
    {check : (String → Option Json) → Checked β}
    (h : ∀ {field field'}, ReadAlike slots field field' → Agree (check field) (check field')) :
    Respects (Revised slots) (checkRecord check) := by
  intro value value' hrevised
  obtain ⟨fields, fields', rfl, rfl⟩ := hrevised.objects
  exact h (readAlike_of_revised distinct hrevised)

/-- Items of which one is revised are checked as they were before. -/
theorem agree_checkItems {Revised : Json → Json → Prop} {check : Json → Checked β}
    (h : Respects Revised check) {value value' : Json} (hrevised : Revised value value')
    (after : List Json) : ∀ (before : List Json) (index : Nat),
      Agree (checkItems check index (before ++ value :: after))
        (checkItems check index (before ++ value' :: after))
  | [], _ => .apply (.apply (.refl _) (.within (h _ _ hrevised) _ _)) (.refl _)
  | _ :: before, index => .apply (.refl _) (agree_checkItems h hrevised after before (index + 1))

/-- A check of every item respects revisions of one item. -/
theorem respects_checkList {Revised : Json → Json → Prop} {check : Json → Checked β}
    (h : Respects Revised check) : Respects (RevisedItem Revised) (checkList check)
  | _, _, .item hrevised => agree_checkItems h hrevised _ _ 0

section Parts

variable {field field' : String → Option Json}

/-- Contact values that read alike are checked alike. -/
theorem agree_checkContact (h : ReadAlike contactSlots field field') :
    Agree (checkContact field) (checkContact field') :=
  .apply (.apply (.apply (.apply (.apply (.refl _)
    (h.text 0 rfl))
    (h.optional 1 rfl none checkOptionalText))
    (h.optional 2 rfl none checkOptionalText))
    (h.optional 3 rfl none checkOptionalText))
    (h.optional 4 rfl none checkOptionalText)

/-- So is personal information. -/
theorem agree_checkPersonalInfo (h : ReadAlike personalInfoSlots field field') :
    Agree (checkPersonalInfo field) (checkPersonalInfo field') :=
  .apply (.apply (.apply (.refl _)
    (h.text 0 rfl))
    (h.text 1 rfl))
    (h.required 2 rfl (respects_checkRecord (by decide) agree_checkContact))

/-- So is a job. -/
theorem agree_checkExperience (h : ReadAlike experienceSlots field field') :
    Agree (checkExperience field) (checkExperience field') :=
  .apply (.apply (.apply (.apply (.apply (.apply (.refl _)
    (h.text 0 rfl))
    (h.text 1 rfl))
    (h.text 2 rfl))
    (h.required 3 rfl (respects_emptyRelation checkText)))
    (h.required 4 rfl (respects_emptyRelation checkText)))
    (h.optional 5 rfl [] (checkList checkText))

/-- So are skills. -/
theorem agree_checkSkills (h : ReadAlike skillsSlots field field') :
    Agree (checkSkills field) (checkSkills field') :=
  .apply (.apply (.refl _)
    (h.optional 0 rfl [] (checkList checkText)))
    (h.optional 1 rfl [] (checkList checkText))

/-- So is a project. -/
theorem agree_checkProject (h : ReadAlike projectSlots field field') :
    Agree (checkProject field) (checkProject field') :=
  .apply (.apply (.refl _)
    (h.text 0 rfl))
    (h.text 1 rfl)

/-- So is education. -/
theorem agree_checkEducation (h : ReadAlike educationSlots field field') :
    Agree (checkEducation field) (checkEducation field') :=
  .apply (.apply (.refl _)
    (h.text 0 rfl))
    (h.optional 1 rfl [] (checkList checkText))

/-- So is a whole résumé. -/
theorem agree_checkResume (h : ReadAlike resumeSlots field field') :
    Agree (checkResume field) (checkResume field') :=
  .apply (.apply (.apply (.apply (.apply (.apply (.refl _)
    (h.required 0 rfl (respects_checkRecord (by decide) agree_checkPersonalInfo)))
    (h.text 1 rfl))
    (h.required 2 rfl
      (respects_checkList (respects_checkRecord (by decide) agree_checkExperience))))
    (h.required 3 rfl (respects_checkRecord (by decide) agree_checkSkills)))
    (h.required 4 rfl (respects_checkList (respects_checkRecord (by decide) agree_checkProject))))
    (h.required 5 rfl (respects_checkRecord (by decide) agree_checkEducation))

end Parts

/-- A revised value is checked as it was before. -/
theorem respects_validate : Respects (Revised resumeSlots) validate :=
  respects_checkRecord (by decide) agree_checkResume

/-! ### A résumé that was written out -/

section WrittenOut

variable {α : Type} {check : Json → Checked α} {write : α → Json}

/-- Items that were written out are checked to be those items. -/
theorem checkItems_map (h : ∀ item, check (write item) = .ok item) (items : List α) (index : Nat) :
    checkItems check index (items.map write) = .ok items := by
  induction items generalizing index with
  | nil => rfl
  | cons item rest ih => simp [checkItems, h, ih]

/-- So is a list of them. -/
theorem checkList_map (h : ∀ item, check (write item) = .ok item) (items : List α) :
    checkList check (.list (items.map write)) = .ok items :=
  checkItems_map h items 0

@[simp] theorem checkText_text (s : String) : checkText (Json.text s) = .ok s := rfl

@[simp] theorem checkOptionalText_optionalText (s : Option String) :
    checkOptionalText (optionalText s) = .ok s := by
  cases s <;> rfl

@[simp] theorem checkList_textList (items : List String) :
    checkList checkText (textList items) = .ok items :=
  checkList_map checkText_text items

@[simp] theorem checkRecord_object (check : (String → Option Json) → Checked α)
    (fields : List (String × Json)) :
    checkRecord check (.object fields) = check fun name => fields.lookup name := rfl

@[simp] theorem optionalText_some (s : String) : optionalText (some s) = .text s := rfl

@[simp] theorem checkContact_contactJson (contact : Contact) :
    checkRecord checkContact (contactJson contact) = .ok contact := by
  simp [contactJson, Contact.fields, checkContact, required, optional, firstSpelling,
    List.lookup_cons]

@[simp] theorem checkPersonalInfo_personalInfoJson (info : PersonalInfo) :
    checkRecord checkPersonalInfo (personalInfoJson info) = .ok info := by
  simp [personalInfoJson, checkPersonalInfo, required, firstSpelling, List.lookup_cons]

@[simp] theorem checkExperience_experienceJson (job : Experience) :
    checkRecord checkExperience (experienceJson job) = .ok job := by
  simp [experienceJson, checkExperience, required, optional, firstSpelling, List.lookup_cons]

@[simp] theorem checkSkills_skillsJson (skills : Skills) :
    checkRecord checkSkills (skillsJson skills) = .ok skills := by
  simp [skillsJson, checkSkills, optional, List.lookup_cons]

@[simp] theorem checkProject_projectJson (project : Project) :
    checkRecord checkProject (projectJson project) = .ok project := by
  simp [projectJson, checkProject, required, firstSpelling, List.lookup_cons]

@[simp] theorem checkEducation_educationJson (education : Education) :
    checkRecord checkEducation (educationJson education) = .ok education := by
  simp [educationJson, checkEducation, required, optional, firstSpelling, List.lookup_cons]

/-- A résumé that was written out is checked to be that résumé. -/
theorem validate_toJson (resume : Resume) : validate resume.toJson = .ok resume := by
  simp [validate, toJson, checkResume, required, firstSpelling, List.lookup_cons,
    checkList_map checkExperience_experienceJson, checkList_map checkProject_projectJson]

end WrittenOut

/-- Checking depends on the known fields alone. Any résumé that a value is checked to be is
checked to be itself when it is written out; and any number of revisions, forth and back, leave
the verdict of the check as it is. -/
theorem validate_of_known_fields :
    (∀ (value : Json) (resume : Resume), validate value = .ok resume →
      validate resume.toJson = .ok resume) ∧
    ∀ value value' : Json, Relation.EqvGen (Revised resumeSlots) value value' →
      (validate value).verdict = (validate value').verdict := by
  refine ⟨fun _ resume _ => validate_toJson resume, fun value value' hrevised => ?_⟩
  induction hrevised with
  | rel value value' h => exact respects_validate value value' h
  | refl value => rfl
  | symm value value' _ ih => exact ih.symm
  | trans value between value' _ _ ih ih' => exact ih.trans ih'

/-- A personal part without a title and without a contact record, once as it was and once with the
other spelling and a key of its own: the same faults are found, in the same order. -/
theorem validate_of_known_fields_untitled :
    (validate Resume.sample.toJson = .ok Resume.sample) ∧
    (validate (Json.object [("personal_info",
      .object [("name", .text "Ada"), ("contact", .null), ("age", .int 36)])])).verdict =
      .error [.missing, .notRecord, .missing, .missing, .missing, .missing, .missing] := by
  refine ⟨validate_of_known_fields.1 sample.toJson sample (validate_toJson sample), ?_⟩
  have hrenamed : Revised resumeSlots
      (.object [("personalInfo", .object [("name", .text "Ada"), ("contact", .null)])])
      (.object [("personal_info", .object [("name", .text "Ada"), ("contact", .null)])]) :=
    @Revised.rename _ _ List.mem_cons_self [] [] [] [] _ _ _ rfl (by simp) (by simp) (by simp)
  have hextended : Revised personalInfoSlots (.object [("name", .text "Ada"), ("contact", .null)])
      (.object [("name", .text "Ada"), ("contact", .null), ("age", .int 36)]) :=
    @Revised.add _ [("name", .text "Ada"), ("contact", .null)] [] _ _ (by decide)
  have hwithin := @Revised.within resumeSlots _ List.mem_cons_self [] [] "personal_info" _ _
    (by simp) hextended
  exact (validate_of_known_fields.2 _ _ (.trans _ _ _ (.rel _ _ hrenamed) (.rel _ _ hwithin))).symm

end Resume

end VitaeShell
