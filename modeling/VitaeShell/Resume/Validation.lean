import VitaeShell.Resume
import VitaeShell.Json

/-!
# Checking a résumé

A value from a data file is a résumé if every part has the right shape; otherwise every fault is
reported with its place, in the order of the parts, deepest first within each part (`validate`). A
key that the schema does not know is passed over, and nothing is converted.

The schema looks at values through `Inspectable.shape` alone, so that one check serves every data
format.
-/

namespace VitaeShell

/-- What the schema sees of a value. -/
inductive Shape (α : Type) where
  /-- No value at all. -/
  | absent
  | text (value : String)
  /-- A run of bytes that is no text. -/
  | brokenText
  | list (items : List α)
  /-- A record, by its reader of fields. -/
  | record (field : String → Option α)
  | other

/-- Values that a schema can look at. -/
class Inspectable (α : Type) where
  shape : α → Shape α

instance : Inspectable Json where
  shape
    | .null => .absent
    | .text value => .text value
    | .list items => .list items
    | .object fields => .record fun name => fields.lookup name
    | _ => .other

namespace Resume

/-- The ways in which a value can be unfit. -/
inductive FaultKind where
  | missing
  | notText
  | brokenText
  | notList
  | notRecord
deriving DecidableEq, Repr

/-- One step from a value to a value within it. -/
inductive Step where
  | key (name : String)
  | index (n : Nat)
deriving DecidableEq, Repr

/-- A fault and its place. -/
structure Fault where
  kind : FaultKind
  place : List Step
deriving DecidableEq, Repr

/-- A checked value, or all of its faults in order. -/
abbrev Checked (α : Type) := Except (List Fault) α

namespace Checked

variable {α β : Type}

/-- A single fault at the value itself. -/
def fault (kind : FaultKind) : Checked α :=
  .error [⟨kind, []⟩]

/-- Applies a checked function to a checked value; the faults of both are kept. -/
def apply (f : Checked (α → β)) (x : Checked α) : Checked β :=
  match f, x with
  | .ok f, .ok x => .ok (f x)
  | .ok _, .error faults => .error faults
  | .error faults, .ok _ => .error faults
  | .error faults, .error more => .error (faults ++ more)

/-- The faults of a value within another, seen from that other. -/
def within (step : Step) : Checked α → Checked α
  | .ok value => .ok value
  | .error faults => .error (faults.map fun f => { f with place := step :: f.place })

end Checked

section Schema

variable {α β : Type} [Inspectable α]

/-- A value that has to be a text. -/
def checkText (value : α) : Checked String :=
  match Inspectable.shape value with
  | .text s => .ok s
  | .brokenText => Checked.fault .brokenText
  | _ => Checked.fault .notText

/-- A value that has to be a text, or absent. -/
def checkOptionalText (value : α) : Checked (Option String) :=
  match Inspectable.shape value with
  | .absent => .ok none
  | _ =>
    match checkText value with
    | .ok s => .ok (some s)
    | .error faults => .error faults

/-- Checks items one after the other, numbering them from `index`. -/
def checkItems (check : α → Checked β) (index : Nat) : List α → Checked (List β)
  | [] => .ok []
  | item :: rest =>
    Checked.apply (Checked.apply (.ok List.cons) (Checked.within (.index index) (check item)))
      (checkItems check (index + 1) rest)

/-- A value that has to be a list. -/
def checkList (check : α → Checked β) (value : α) : Checked (List β) :=
  match Inspectable.shape value with
  | .list items => checkItems check 0 items
  | _ => Checked.fault .notList

/-- A value that has to be a record. -/
def checkRecord (check : (String → Option α) → Checked β) (value : α) : Checked β :=
  match Inspectable.shape value with
  | .record field => check field
  | _ => Checked.fault .notRecord

/-- The first of several spellings of a field that a record has, with its value. -/
def firstSpelling (field : String → Option α) (spellings : List String) : Option (String × α) :=
  spellings.findSome? fun name => (field name).map fun value => (name, value)

/-- A field that has to be there, under any of its spellings, the first of which names it. -/
def required (field : String → Option α) (name : String) (others : List String)
    (check : α → Checked β) : Checked β :=
  match firstSpelling field (name :: others) with
  | some (spelling, value) => Checked.within (.key spelling) (check value)
  | none => Checked.within (.key name) (Checked.fault .missing)

/-- A field that may be left out. -/
def optional (field : String → Option α) (name : String) (default : β)
    (check : α → Checked β) : Checked β :=
  match field name with
  | some value => Checked.within (.key name) (check value)
  | none => .ok default

/-! ### The parts -/

/-- The contact part. -/
def checkContact (field : String → Option α) : Checked Contact :=
  Checked.apply (Checked.apply (Checked.apply (Checked.apply (Checked.apply (.ok Contact.mk)
    (required field "email" [] checkText))
    (optional field "phone" none checkOptionalText))
    (optional field "website" none checkOptionalText))
    (optional field "linkedin" none checkOptionalText))
    (optional field "github" none checkOptionalText)

/-- The personal part. -/
def checkPersonalInfo (field : String → Option α) : Checked PersonalInfo :=
  Checked.apply (Checked.apply (Checked.apply (.ok PersonalInfo.mk)
    (required field "name" [] checkText))
    (required field "title" [] checkText))
    (required field "contact" [] (checkRecord checkContact))

/-- One position. -/
def checkExperience (field : String → Option α) : Checked Experience :=
  Checked.apply (Checked.apply (Checked.apply (Checked.apply (Checked.apply (Checked.apply
    (.ok Experience.mk)
    (required field "company" [] checkText))
    (required field "position" [] checkText))
    (required field "location" [] checkText))
    (required field "startDate" ["start_date"] checkText))
    (required field "endDate" ["end_date"] checkText))
    (optional field "responsibilities" [] (checkList checkText))

/-- The skills part. -/
def checkSkills (field : String → Option α) : Checked Skills :=
  Checked.apply (Checked.apply (.ok Skills.mk)
    (optional field "technical" [] (checkList checkText)))
    (optional field "soft" [] (checkList checkText))

/-- One project. -/
def checkProject (field : String → Option α) : Checked Project :=
  Checked.apply (Checked.apply (.ok Project.mk)
    (required field "name" [] checkText))
    (required field "description" [] checkText)

/-- The education part. -/
def checkEducation (field : String → Option α) : Checked Education :=
  Checked.apply (Checked.apply (.ok Education.mk)
    (required field "university" [] checkText))
    (optional field "certifications" [] (checkList checkText))

/-- The whole résumé. -/
def checkResume (field : String → Option α) : Checked Resume :=
  Checked.apply (Checked.apply (Checked.apply (Checked.apply (Checked.apply (Checked.apply
    (.ok Resume.mk)
    (required field "personalInfo" ["personal_info"] (checkRecord checkPersonalInfo)))
    (required field "about" [] checkText))
    (required field "experience" [] (checkList (checkRecord checkExperience))))
    (required field "skills" [] (checkRecord checkSkills)))
    (required field "projects" [] (checkList (checkRecord checkProject))))
    (required field "education" [] (checkRecord checkEducation))

/-- The résumé that a value is, or everything that is wrong with it. -/
def validate (value : α) : Checked Resume :=
  checkRecord checkResume value

end Schema

/-! ### Writing a résumé out -/

/-- A list of texts as a value. -/
def textList (items : List String) : Json :=
  .list (items.map .text)

/-- An optional text as a value. -/
def optionalText : Option String → Json
  | some s => .text s
  | none => .null

/-- The contact part as an object. -/
def contactJson (contact : Contact) : Json :=
  .object (contact.fields.map fun field => (field.1, optionalText field.2))

/-- The personal part as an object. -/
def personalInfoJson (info : PersonalInfo) : Json :=
  .object [("name", .text info.name), ("title", .text info.title),
    ("contact", contactJson info.contact)]

/-- One position as an object. -/
def experienceJson (job : Experience) : Json :=
  .object [("company", .text job.company), ("position", .text job.position),
    ("location", .text job.location), ("startDate", .text job.startDate),
    ("endDate", .text job.endDate), ("responsibilities", textList job.responsibilities)]

/-- The skills part as an object. -/
def skillsJson (skills : Skills) : Json :=
  .object [("technical", textList skills.technical), ("soft", textList skills.soft)]

/-- One project as an object. -/
def projectJson (project : Project) : Json :=
  .object [("name", .text project.name), ("description", .text project.description)]

/-- The education part as an object. -/
def educationJson (education : Education) : Json :=
  .object [("university", .text education.university),
    ("certifications", textList education.certifications)]

/-- The whole résumé as an object that `validate` accepts, with every field written out. -/
def toJson (resume : Resume) : Json :=
  .object [("personalInfo", personalInfoJson resume.personalInfo), ("about", .text resume.about),
    ("experience", .list (resume.experience.map experienceJson)),
    ("skills", skillsJson resume.skills),
    ("projects", .list (resume.projects.map projectJson)),
    ("education", educationJson resume.education)]

end Resume

end VitaeShell
