import Proofing.Json.Reader
import Proofing.Text.Blank
/-
  Proofing — personal data.

  `Pii` holds what the flow has collected about a person, each part of it
  optional.  What is shown of it outside its JSON form is only which parts are
  there (`Pii.redacted`).

  * `entries` lists the parts under their names, in the order of declaration,
    `present` those that are there;
  * the JSON form holds the parts that are there; `text` is its text in the
    order of declaration, and `ofText?` reads such a text.
-/
namespace Proofing

/-- Personal data. -/
structure Pii where
  firstName : Option String
  middleName : Option String
  lastName : Option String
  /-- The date of birth. -/
  dob : Option String
  ssn : Option String
  address1 : Option String
  address2 : Option String
  city : Option String
  state : Option String
  zipcode : Option String
  phone : Option String
  stateIdNumber : Option String
  stateIdJurisdiction : Option String
  deriving DecidableEq, Repr

namespace Pii

/-- Nothing collected. -/
def empty : Pii :=
  ⟨none, none, none, none, none, none, none, none, none, none, none, none, none⟩

/-- The parts under their names. -/
def entries (p : Pii) : List (String × Option String) :=
  [("first_name", p.firstName), ("middle_name", p.middleName), ("last_name", p.lastName),
    ("dob", p.dob), ("ssn", p.ssn), ("address1", p.address1), ("address2", p.address2),
    ("city", p.city), ("state", p.state), ("zipcode", p.zipcode), ("phone", p.phone),
    ("state_id_number", p.stateIdNumber), ("state_id_jurisdiction", p.stateIdJurisdiction)]

/-- The parts that are there. -/
def present (p : Pii) : Members String :=
  p.entries.filterMap fun e => e.2.map (e.1, ·)

/-- No part is there. -/
def isEmpty (p : Pii) : Bool :=
  p.present.isEmpty

/-- The fields of the JSON form. -/
def record : Record Pii :=
  Pii.mk <$> .defaulted "first_name" none <*> .defaulted "middle_name" none <*>
    .defaulted "last_name" none <*> .defaulted "dob" none <*> .defaulted "ssn" none <*>
    .defaulted "address1" none <*> .defaulted "address2" none <*> .defaulted "city" none <*>
    .defaulted "state" none <*> .defaulted "zipcode" none <*> .defaulted "phone" none <*>
    .defaulted "state_id_number" none <*> .defaulted "state_id_jurisdiction" none

/-- The parts that are there, as members of an object. -/
def members (p : Pii) : Members Json :=
  p.present.map fun e => (e.1, .str e.2)

instance : Coded Pii := ⟨fun p => .ofMembers p.members, record.decode "Pii"⟩

/-- The text of the JSON form, parts in the order of declaration. -/
def text (p : Pii) : String :=
  Json.compact (.obj p.members)

/-- The personal data in a text. -/
def ofSource? (src : Text.Source) : Option Pii :=
  (Raw.parse? src).bind (Raw.record? "Pii" record)

/-- The personal data in a text. -/
def ofText? (text : String) : Option Pii :=
  ofSource? (.ofString text)

/-- What is shown in place of personal data: the names of the parts that are there. -/
def redacted (p : Pii) : String :=
  "Pii \x7b present: [" ++ ", ".intercalate (p.present.map fun e => Text.quoted e.1) ++
    "], .. \x7d"

end Pii

end Proofing
