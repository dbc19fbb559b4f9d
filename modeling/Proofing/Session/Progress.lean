import Proofing.Address
import Proofing.Profile.Status
import Proofing.Session.Basic
/-
  Proofing — how far a session has come.

  `Phase` is where the session stands; it is read off the attributes and never
  stored.  The other functions answer single questions about the steps.
-/
namespace Proofing

namespace Session

/-- What there is to prove the address. -/
def address (s : Session) : AddressProof :=
  ⟨s.held .mechanism, s.attributes.phone⟩

/-- Both sides confirmed the phone. -/
def phoneConfirmed (s : Session) : Bool :=
  s.address.phone.isConfirmed

/-- The details of the applicant were confirmed. -/
def isResolved (s : Session) : Bool :=
  s.held .resolutionSuccessful == some true

/-- The document has given some data, or a visit was prepared, or neither is needed any more. -/
def captureComplete (s : Session) : Bool :=
  (s.held .documentPii).any (fun p => !p.isEmpty) || s.visitPii.isSome || s.isResolved

/-- The code from the letter was entered. -/
def addressConfirmed (s : Session) : Bool :=
  s.held .letterCodeVerified == some true

/-- Documents are captured on this device. -/
def skipsHandoff (s : Session) : Bool :=
  s.held .skipHandoff == some true

/-- A code was sent to the phone. -/
def codeSent (s : Session) : Bool :=
  s.sentCode.isSome

end Session

/-- Where a session stands. -/
inductive Phase where
  | notStarted
  | applicantAssembled
  | resolutionAttempted (successful : Bool)
  | mechanismChosen (mechanism : Mechanism)
  | phoneConfirmed
  /-- The profile was created; its status, if the profile is at hand and has one. -/
  | profileCreated (status : Option Status)
  /-- The profile was created and the user has seen the personal key. -/
  | keyIssued
  deriving DecidableEq, Repr

namespace Phase

/-- The phase in descriptions. -/
def title : Phase → String
  | notStarted => "NotStarted"
  | applicantAssembled => "ApplicantAssembled"
  | resolutionAttempted successful =>
    "ResolutionAttempted \x7b successful: " ++ toString successful ++ " \x7d"
  | mechanismChosen mechanism => "AddressMechanismChosen(" ++ mechanism.title ++ ")"
  | phoneConfirmed => "PhoneConfirmed"
  | profileCreated none => "ProfileCreated(None)"
  | profileCreated (some status) => "ProfileCreated(Some(" ++ status.title ++ "))"
  | keyIssued => "PersonalKeyIssued"

end Phase

/-- The phase of a session, given a profile that may be its own. -/
def Session.phase (s : Session) (profile : Option Profile) : Phase :=
  match s.profileId with
  | some id =>
    if (s.held .personalKey).isNone then .keyIssued
    else .profileCreated ((profile.filter (·.id == id)).bind Status.of)
  | none =>
    if s.phoneConfirmed then .phoneConfirmed
    else if s.address.isChosen then .mechanismChosen ((s.held .mechanism).getD .phone)
    else
      match s.held .resolutionSuccessful with
      | some successful => .resolutionAttempted successful
      | none => if (s.held .applicant).isSome then .applicantAssembled else .notStarted

end Proofing
