import Proofing.Session.Basic
/-
  Proofing — resetting steps.

  When the input of a step changes, what later steps made of it is dropped.  A
  session with a profile is locked: the profile was made of what would be
  dropped.
-/
namespace Proofing

/-- What is dropped. -/
inductive Reset where
  /-- The social security number changed: applicant, resolution and phone. -/
  | afterSsn
  /-- The resolution alone. -/
  | resolution
  /-- The resolution is repeated: the chosen mechanism and the phone. -/
  | afterResolution
  /-- The phone alone. -/
  | phone
  /-- The applicant alone. -/
  | applicant
  deriving DecidableEq, Repr

/-- What a reset did. -/
inductive ResetOutcome where
  | cleared
  /-- The session has a profile; nothing was changed. -/
  | locked
  deriving DecidableEq, Repr

/-- The outcome in descriptions. -/
def ResetOutcome.title : ResetOutcome → String
  | cleared => "Cleared"
  | locked => "ProfileLocked"

namespace Session

/-- Drops the applicant. -/
def dropApplicant (s : Session) : Session :=
  s.put .applicant none

/-- Drops the resolution. -/
def dropResolution (s : Session) : Session :=
  s.put .resolutionSuccessful none

/-- Drops the phone check and the code that was sent for it. -/
def dropPhone (s : Session) : Session :=
  { s with attributes := { s.attributes with phone := .notStarted }, sentCode := none }

/-- The mechanism is the phone again. -/
def returnToPhone (s : Session) : Session :=
  s.put .mechanism (some .phone)

/-- Drops what a reset drops, whether or not there is a profile. -/
def drop (s : Session) : Reset → Session
  | .afterSsn => s.dropApplicant.dropResolution.dropPhone
  | .resolution => s.dropResolution
  | .afterResolution => s.returnToPhone.dropPhone
  | .phone => s.dropPhone
  | .applicant => s.dropApplicant

/-- Resets a step of a session without a profile. -/
def reset (s : Session) (r : Reset) : ResetOutcome × Session :=
  if s.profileId.isSome then (.locked, s) else (.cleared, s.drop r)

end Session

end Proofing
