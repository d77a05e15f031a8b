/-!
# Résumés

A résumé that has been checked: every part is there and every text is a text.
-/

namespace VitaeShell

/-- Ways to reach a person. Only the first is sure to be given. -/
structure Contact where
  email : String
  phone : Option String := none
  website : Option String := none
  linkedin : Option String := none
  github : Option String := none
deriving DecidableEq, Repr

/-- Who the résumé is about. -/
structure PersonalInfo where
  name : String
  title : String
  contact : Contact
deriving DecidableEq, Repr

/-- One position held. -/
structure Experience where
  company : String
  position : String
  location : String
  startDate : String
  endDate : String
  responsibilities : List String := []
deriving DecidableEq, Repr

/-- What a person is good at. -/
structure Skills where
  technical : List String := []
  soft : List String := []
deriving DecidableEq, Repr

/-- One project. -/
structure Project where
  name : String
  description : String
deriving DecidableEq, Repr

/-- Where a person studied. -/
structure Education where
  university : String
  certifications : List String := []
deriving DecidableEq, Repr

/-- A complete résumé. -/
structure Resume where
  personalInfo : PersonalInfo
  about : String
  experience : List Experience
  skills : Skills
  projects : List Project
  education : Education
deriving DecidableEq, Repr

namespace Contact

/-- The five contact fields by name, in the order in which they are shown. -/
def fields (contact : Contact) : List (String × Option String) :=
  [("email", some contact.email), ("phone", contact.phone), ("website", contact.website),
    ("linkedin", contact.linkedin), ("github", contact.github)]

end Contact

end VitaeShell
