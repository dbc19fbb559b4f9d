import Proofing.Attribute.Values
import Proofing.Config
import Proofing.Phone.Rejected
import Proofing.WebSession
/-
  Proofing — the session of a flow: what is read from the web session at the
  start of a request (`Session.load`), worked on, and written back at its end
  (`Session.store`).

  * Only the attributes and the four keys of `Session.Key` are ever read or
    written; values that are not of the right form are dropped.
  * `clear` starts the flow anew, under a new nonce.
  * `get` and `set` access attributes by name; a name that is no attribute is an
    error, or nothing, as the settings have it.
-/
namespace Proofing

/-- The state of a flow. -/
structure Session where
  id : SessionId
  /-- The key of the flow in the web session. -/
  space : String
  /-- The key of the data of visits in the web session. -/
  visitSpace : String
  unknownNames : UnknownNames
  attributes : Attributes
  /-- Decrypted personal data on its way to the vault. -/
  staged : Option StagedText
  sentCode : Option SentCode
  rejected : RejectedNumbers
  /-- Personal data collected for a visit; read, never written. -/
  visitPii : Option Pii
  /-- Tells the runs of the flow in one web session apart; the first one has none. -/
  nonce : Option Uuid

namespace Session

namespace Key

/-- The key of staged personal data. -/
def staged : String := "decrypted_pii"

/-- The key of a sent code. -/
def sentCode : String := "user_phone_confirmation_session"

/-- The key of the rejected phone numbers. -/
def rejected : String := "failed_phone_step_params"

/-- The key of the nonce. -/
def nonce : String := "flow_nonce"

/-- The key of personal data among the data of visits. -/
def visitPii : String := "pii_from_user"

end Key

/-- A session in which nothing has happened. -/
def new (id : SessionId) (config : Config) : Session where
  id := id
  space := config.sessionSpace
  visitSpace := config.visitSpace
  unknownNames := config.unknownNames
  attributes := .empty
  staged := none
  sentCode := none
  rejected := .empty
  visitPii := none
  nonce := none

/-! ## Loading and storing -/

/-- The value under a key, if it has the right form. -/
def read? {α : Type} [Coded α] (values : Members Json) (key : String) : Option α :=
  (Members.find? key values).bind fun j => (Coded.decode j).toOption

/-- The session of a flow in a web session. -/
def load (web : WebSession) (config : Config) : Session :=
  let s := new web.id config
  let s := { s with
    visitPii := (web.space? config.visitSpace).bind fun values => read? values Key.visitPii }
  match web.space? config.sessionSpace with
  | none => s
  | some values =>
    { s with
      attributes := .ofStored values
      staged := read? values Key.staged
      sentCode := read? values Key.sentCode
      rejected := (read? values Key.rejected).getD .empty
      nonce := read? values Key.nonce }

/-- A member for a value, if there is one. -/
def entry {α : Type} [Coded α] (key : String) (value : Option α) : List (String × Json) :=
  (value.map fun a => (key, Coded.encode a)).toList

/-- Everything that is stored of a session. -/
def stored (s : Session) : Members Json :=
  .ofList <|
    s.attributes.present.map (fun (a, j) => (a.name, j)) ++
      entry Key.staged s.staged ++ entry Key.sentCode s.sentCode ++
      entry Key.rejected (if s.rejected.numbers.isEmpty then none else some s.rejected) ++
      entry Key.nonce s.nonce

/-- Writes the session into a web session, in the place of what is there. -/
def store (s : Session) (web : WebSession) : WebSession :=
  web.replace s.space s.stored

/-- Drops everything, here and in the web session, and starts the flow anew under a nonce. -/
def clear (s : Session) (web : WebSession) (nonce : Uuid) : Session × WebSession :=
  let cleared := { s with
    attributes := .empty, staged := none, sentCode := none, rejected := .empty,
    visitPii := none, nonce := some nonce }
  (cleared, cleared.store ((web.remove s.space).remove s.visitSpace))

/-! ## Access by name -/

/-- The attribute with a name; none for an unknown name that is ignored. -/
def resolve (s : Session) (name : String) : Except FlowError (Option Attribute) :=
  match Attribute.ofName? name, s.unknownNames with
  | some a, _ => .ok (some a)
  | none, .reject => .error (.unknownAttribute name)
  | none, .ignore => .ok none

/-- The value of an attribute. -/
def get (s : Session) (name : String) : Except FlowError (Option Json) := do
  return (← s.resolve name).bind s.attributes.get

/-- Writes an attribute; no value clears it. -/
def set (s : Session) (name : String) (value : Option Json) : Except FlowError Session := do
  match ← s.resolve name with
  | none => return s
  | some a => return { s with attributes := ← s.attributes.set a value }

/-! ## Single values -/

/-- The value of a slot. -/
def held (s : Session) (slot : Slot) : Option slot.Value :=
  s.attributes.held slot

/-- Writes a slot. -/
def put (s : Session) (slot : Slot) (value : Option slot.Value) : Session :=
  { s with attributes := s.attributes.put slot value }

/-- The number of the profile. -/
def profileId (s : Session) : Option ProfileId :=
  s.attributes.profileId

/-- Records the number of the profile. -/
def setProfileId (s : Session) (id : Option ProfileId) : Except FlowError Session := do
  return { s with attributes := ← s.attributes.setProfileId id }

/-- The details of the applicant were confirmed. -/
def markResolved (s : Session) : Session :=
  s.put .resolutionSuccessful (some true)

/-- The code from the letter was entered correctly. -/
def confirmAddress (s : Session) : Session :=
  s.put .letterCodeVerified (some true)

/-- The user has seen the personal key; it is forgotten. -/
def acknowledgeKey (s : Session) : Session :=
  s.put .personalKey none

/-- Notes a phone number that the vendor turned down, and says whether it is new. -/
def noteRejected {ν : Type} [PhoneReader ν] (s : Session) (reader : ν) (raw : String) :
    Except FormatError (Bool × Session) := do
  let (isNew, rejected) ← s.rejected.note reader raw
  return (isNew, { s with rejected })

/-- Something is staged. -/
def hasStaged (s : Session) : Bool :=
  match s.staged with
  | some t => !t.isBlank
  | none => false

end Session

/-! ## Data for vendors -/

/-- What the vendors that check an identity are told. -/
structure Enquiry where
  applicant : Pii
  uuid : String
  deriving DecidableEq

namespace Enquiry

/-- The fields beside those of the applicant. -/
def own : Record String :=
  .field "uuid"

/-- Reads an object: first the type of the identifier, then its presence, then the applicant among
    all members. -/
def decode : Decoder Enquiry
  | .obj ms => do
    let uuid ← own.decode "VendorParams" (.obj ms)
    return ⟨← Pii.record.decode "Pii" (.obj ms), uuid⟩
  | j => .error (.wrongType j "struct VendorParams")

instance : Coded Enquiry :=
  ⟨fun e => .ofMembers (e.applicant.members ++ [("uuid", .str e.uuid)]), decode⟩

end Enquiry

/-- The enquiry about the applicant of a session, for a user. -/
def Session.enquiry (s : Session) (user : UserId) : Option Enquiry :=
  (s.held .applicant).map fun applicant => ⟨applicant, toString user⟩

end Proofing
