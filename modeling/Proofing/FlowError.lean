import Proofing.Fault
import Proofing.Identity
/-
  Proofing — the errors of a flow: those of its attributes, and those of the
  steps that end it.
-/
namespace Proofing

/-- Why an attribute does not take a value. -/
inductive ValueFault where
  | undecodable (e : DecodeError)
  /-- The user's side of a phone check is `true` or absent. -/
  | onlyTrueOrNull
  /-- The user cannot confirm a phone that the vendor has not matched. -/
  | phoneNotMatched

/-- The wording of a refusal. -/
def ValueFault.message : ValueFault → String
  | undecodable e => e.message
  | onlyTrueOrNull => "only true or null is recorded"
  | phoneNotMatched => "phone is not vendor-confirmed"

/-- A vendor whose services a flow uses. -/
inductive Vendor where
  /-- Sends letters with codes. -/
  | letters
  /-- Schedules visits. -/
  | visits
  deriving DecidableEq, Repr

/-- The name in messages. -/
def Vendor.name : Vendor → String
  | letters => "gpo_confirmation_maker"
  | visits => "in_person_enrollment"

/-- Why a step of a flow was refused or failed. -/
inductive FlowError where
  | unknownAttribute (name : String)
  | invalidValue (name : String) (why : ValueFault)
  /-- The session has a profile already, and keeps it. -/
  | profileExists (id : ProfileId)
  | noApplicant
  | noProfile
  | notCreated (e : StoreFault)
  | notFound (e : StoreFault)
  /-- Personal data could not be kept or taken out of the session. -/
  | notKept (e : StoreFault)
  | notLinked (e : StoreFault)
  | vendorFailed (vendor : Vendor) (e : VendorFault)
  | sealing (e : EnvelopeError)

namespace FlowError

/-- The wording of an error. -/
def message : FlowError → String
  | unknownAttribute name => "unknown session attribute: " ++ name
  | invalidValue name why =>
    "invalid value for session attribute " ++ name ++ ": " ++ why.message
  | profileExists id => "profile " ++ toString id ++ " was already created for this session"
  | noApplicant => "no applicant has been assembled in this session"
  | noProfile => "session has no profile"
  | notCreated e => "profile creation failed: " ++ e.message
  | notFound e => "profile lookup failed: " ++ e.message
  | notKept e => "PII could not be cached or relocated: " ++ e.message
  | notLinked e => "in-person enrollment could not be linked to the profile: " ++ e.message
  | vendorFailed vendor e => vendor.name ++ " call failed: " ++ e.message
  | sealing e => "encryption error: " ++ e.message

/-- The step can be tried again as it is. -/
def isRetryable : FlowError → Bool
  | vendorFailed .. => true
  | _ => false

/-- The user has to enter the password again. -/
def needsPassword : FlowError → Bool
  | notKept _ => true
  | _ => false

end FlowError

end Proofing
