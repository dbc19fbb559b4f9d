import Proofing.Session.Progress
/-
  Proofing — the summary of a session.

  It says where the session stands and which attributes are there.  The values of
  attributes that hold personal data are not shown, and nothing but their number
  or presence of whatever else does.
-/
namespace Proofing.Inspector

/-- What is shown in place of personal data. -/
def redacted : Json := .str "<redacted>"

/-- The attributes as they are shown. -/
def shownAttributes (s : Session) : Members Json :=
  .ofList <| s.attributes.present.map fun (a, j) => (a.name, if a.isSensitive then redacted else j)

/-- The summary of a session. -/
def summary (s : Session) : Json :=
  .ofMembers
    [("session", .str s.id.text), ("phase", .str (s.phase none).title),
      ("document_capture_complete", .bool s.captureComplete),
      ("verify_info_step_complete", .bool s.isResolved),
      ("address_mechanism_chosen", .bool s.address.isChosen),
      ("address_step_complete", .bool s.address.isComplete),
      ("phone_confirmed", .bool s.phoneConfirmed),
      ("gpo_verification_needed", .bool s.address.needsLetter),
      ("phone_otp_sent", .bool s.codeSent), ("address_confirmed", .bool s.addressConfirmed),
      ("pii_staged", .bool s.hasStaged),
      ("failed_phone_numbers", .nat s.rejected.numbers.length),
      ("attributes", .obj (shownAttributes s))]

end Proofing.Inspector
