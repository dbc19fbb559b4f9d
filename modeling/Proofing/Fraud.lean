import Proofing.Json.Decode
/-
  Proofing — device profiling and the holds that follow from it.
-/
namespace Proofing

/-- The verdict of device profiling. -/
inductive DeviceReview where
  | pass
  | review
  | reject
  deriving DecidableEq, Repr

/-- The name in stored data. -/
def DeviceReview.name : DeviceReview → String
  | pass => "pass"
  | review => "review"
  | reject => "reject"

instance : Variants DeviceReview :=
  ⟨[("pass", .pass), ("review", .review), ("reject", .reject)], DeviceReview.name⟩

/-- Why a profile waits for a fraud review. -/
inductive FraudHold where
  | review
  | reject
  deriving DecidableEq, Repr

/-- The name in stored data. -/
def FraudHold.name : FraudHold → String
  | review => "threatmetrix_review"
  | reject => "threatmetrix_reject"

/-- The name in descriptions of a status. -/
def FraudHold.title : FraudHold → String
  | review => "ThreatmetrixReview"
  | reject => "ThreatmetrixReject"

instance : Variants FraudHold :=
  ⟨[("threatmetrix_review", .review), ("threatmetrix_reject", .reject)], FraudHold.name⟩

/-- The hold that a verdict calls for. -/
def DeviceReview.hold? : DeviceReview → Option FraudHold
  | pass => none
  | review => some .review
  | reject => some .reject

/-- The hold on a new profile; there is none unless verdicts are acted on. -/
def FraudHold.of (decisioning : Bool) (verdict : Option DeviceReview) : Option FraudHold :=
  if decisioning then verdict.bind DeviceReview.hold? else none

end Proofing
