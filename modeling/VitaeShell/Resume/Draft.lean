import VitaeShell.Resume
import VitaeShell.Json

/-!
# Drafts

A résumé in which whole parts may have been replaced without a check. A draft is used like a résumé;
where a replaced part does not do what is asked of it, that is a fault.
-/

namespace VitaeShell

/-- A part of a draft. -/
inductive Part (α : Type) where
  /-- A part as the check left it. -/
  | checked (value : α)
  /-- A part put there without a check. -/
  | replaced (value : Json)

/-- A résumé with parts that may be unchecked. -/
structure Draft where
  personalInfo : Part PersonalInfo
  about : Part String
  experience : Part (List Experience)
  skills : Part Skills
  projects : Part (List Project)
  education : Part Education

namespace Draft

/-- What an unchecked part can fail to do. -/
inductive Fault where
  /-- The part has no items to go through. -/
  | noItems
  /-- The part, or an item of it, has no fields of the name asked for. -/
  | noField
deriving DecidableEq, Repr

/-- The words for a fault. -/
def Fault.message : Fault → String
  | .noItems => "a part is not a collection"
  | .noField => "a part lacks a field"

/-- A checked résumé as a draft. -/
def ofResume (resume : Resume) : Draft where
  personalInfo := .checked resume.personalInfo
  about := .checked resume.about
  experience := .checked resume.experience
  skills := .checked resume.skills
  projects := .checked resume.projects
  education := .checked resume.education

/-- Replaces a part by its name; other names mean nothing. -/
def replace (draft : Draft) (name : String) (value : Json) : Draft :=
  match name with
  | "personal_info" => { draft with personalInfo := .replaced value }
  | "about" => { draft with about := .replaced value }
  | "experience" => { draft with experience := .replaced value }
  | "skills" => { draft with skills := .replaced value }
  | "projects" => { draft with projects := .replaced value }
  | "education" => { draft with education := .replaced value }
  | _ => draft

end Draft

namespace Part

/-- The fields of a part. No unchecked value has them. -/
def fields {α : Type} : Part α → Except Draft.Fault α
  | .checked value => .ok value
  | .replaced _ => .error .noField

/-- The items of a part. An unchecked collection serves only while it is empty: none of its items
would have the fields asked for. -/
def items {α : Type} : Part (List α) → Except Draft.Fault (List α)
  | .checked items => .ok items
  | .replaced (.text s) => if s = "" then .ok [] else .error .noField
  | .replaced (.list items) => if items.isEmpty then .ok [] else .error .noField
  | .replaced (.object fields) => if fields.isEmpty then .ok [] else .error .noField
  | .replaced _ => .error .noItems

/-- The value that a part puts into a file. -/
def content : Part String → Json
  | .checked s => .text s
  | .replaced value => value

end Part

end VitaeShell
