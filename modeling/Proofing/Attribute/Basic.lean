import Proofing.Fraud
import Proofing.Identity
import Proofing.Mechanism
import Proofing.PersonalKey
import Proofing.Phone.Code
import Proofing.Pii.Held
/-
  Proofing — the attributes of a session.

  There are 29 attributes, and no others are ever read or written.  All but two
  are slots, each with a type of values (`Slot.Value`); the other two are the
  sides of the phone check.

  * `Attribute.all` lists them by name; `Attribute.ofName?` finds one;
  * `Attribute.isSensitive` marks those that hold personal data.
-/
namespace Proofing

/-- An attribute with a place of its own. -/
inductive Slot where
  | addressEdited
  | mechanism
  | applicant
  | captureSession
  | capturePath
  | goBackPath
  | letterCodeVerified
  | barcodeAttention
  | barcodeUnreadable
  | consentGiven
  | phoneStepCaptureSession
  | mailOnlyWarningShown
  | personalKey
  | mobilePhone
  | phoneWithCamera
  | pii
  | documentPii
  | previousPhoneEntry
  | profileId
  | redoCapture
  | resolutionSuccessful
  | skipHandoff
  | ssn
  | deviceReview
  | deviceSession
  | verifyStepCaptureSession
  | welcomeVisited
  deriving DecidableEq, Repr

namespace Slot

/-- The values of a slot. -/
@[reducible] def Value : Slot → Type
  | addressEdited | letterCodeVerified | barcodeAttention | barcodeUnreadable | consentGiven
  | mailOnlyWarningShown | phoneWithCamera | redoCapture | resolutionSuccessful | skipHandoff
  | welcomeVisited => Bool
  | goBackPath | mobilePhone | ssn | deviceSession => String
  | captureSession | phoneStepCaptureSession | verifyStepCaptureSession => Uuid
  | mechanism => Mechanism
  | applicant | documentPii => Pii
  | capturePath => CapturePath
  | personalKey => PersonalKey
  | pii => HeldPii
  | previousPhoneEntry => PhoneEntry
  | profileId => ProfileId
  | deviceReview => DeviceReview

instance (s : Slot) : Coded s.Value :=
  match s with
  | addressEdited | letterCodeVerified | barcodeAttention | barcodeUnreadable | consentGiven
  | mailOnlyWarningShown | phoneWithCamera | redoCapture | resolutionSuccessful | skipHandoff
  | welcomeVisited => (inferInstance : Coded Bool)
  | goBackPath | mobilePhone | ssn | deviceSession => (inferInstance : Coded String)
  | captureSession | phoneStepCaptureSession | verifyStepCaptureSession =>
    (inferInstance : Coded Uuid)
  | mechanism => (inferInstance : Coded Mechanism)
  | applicant | documentPii => (inferInstance : Coded Pii)
  | capturePath => (inferInstance : Coded CapturePath)
  | personalKey => (inferInstance : Coded PersonalKey)
  | pii => (inferInstance : Coded HeldPii)
  | previousPhoneEntry => (inferInstance : Coded PhoneEntry)
  | profileId => (inferInstance : Coded ProfileId)
  | deviceReview => (inferInstance : Coded DeviceReview)

end Slot

/-- An attribute of a session. -/
inductive Attribute where
  | slot (s : Slot)
  /-- The user proved to hold the phone. -/
  | userPhone
  /-- The vendor matched the phone to the applicant. -/
  | vendorPhone
  deriving DecidableEq, Repr

namespace Attribute

/-- The name in stored data. -/
def name : Attribute → String
  | slot .addressEdited => "address_edited"
  | slot .mechanism => "address_verification_mechanism"
  | slot .applicant => "applicant"
  | slot .captureSession => "document_capture_session_uuid"
  | slot .capturePath => "flow_path"
  | slot .goBackPath => "go_back_path"
  | slot .letterCodeVerified => "gpo_code_verified"
  | slot .barcodeAttention => "had_barcode_attention_error"
  | slot .barcodeUnreadable => "had_barcode_read_failure"
  | slot .consentGiven => "idv_consent_given"
  | slot .phoneStepCaptureSession => "idv_phone_step_document_capture_session_uuid"
  | slot .mailOnlyWarningShown => "mail_only_warning_shown"
  | slot .personalKey => "personal_key"
  | slot .mobilePhone => "phone_for_mobile_flow"
  | slot .phoneWithCamera => "phone_with_camera"
  | slot .pii => "pii"
  | slot .documentPii => "pii_from_doc"
  | slot .previousPhoneEntry => "previous_phone_step_params"
  | slot .profileId => "profile_id"
  | slot .redoCapture => "redo_document_capture"
  | slot .resolutionSuccessful => "resolution_successful"
  | slot .skipHandoff => "skip_hybrid_handoff"
  | slot .ssn => "ssn"
  | slot .deviceReview => "threatmetrix_review_status"
  | slot .deviceSession => "threatmetrix_session_id"
  | userPhone => "user_phone_confirmation"
  | vendorPhone => "vendor_phone_confirmation"
  | slot .verifyStepCaptureSession => "verify_info_step_document_capture_session_uuid"
  | slot .welcomeVisited => "welcome_visited"

/-- Every attribute, in the order of the names. -/
def all : List Attribute :=
  [slot .addressEdited, slot .mechanism, slot .applicant, slot .captureSession, slot .capturePath,
    slot .goBackPath, slot .letterCodeVerified, slot .barcodeAttention, slot .barcodeUnreadable,
    slot .consentGiven, slot .phoneStepCaptureSession, slot .mailOnlyWarningShown,
    slot .personalKey, slot .mobilePhone, slot .phoneWithCamera, slot .pii, slot .documentPii,
    slot .previousPhoneEntry, slot .profileId, slot .redoCapture, slot .resolutionSuccessful,
    slot .skipHandoff, slot .ssn, slot .deviceReview, slot .deviceSession, userPhone, vendorPhone,
    slot .verifyStepCaptureSession, slot .welcomeVisited]

theorem mem_all (a : Attribute) : a ∈ all := by
  cases a with
  | slot s => cases s <;> decide
  | userPhone => decide
  | vendorPhone => decide

/-- The attribute with a name. -/
def ofName? (name : String) : Option Attribute :=
  all.find? (·.name == name)

/-- The attribute holds personal data: its value is never shown. -/
def isSensitive : Attribute → Bool
  | slot .applicant | slot .personalKey | slot .pii | slot .documentPii | slot .ssn
  | slot .mobilePhone | slot .previousPhoneEntry => true
  | _ => false

end Attribute

end Proofing
