import Proofing.Profile.Basic
/-
  Proofing — the status of a profile.
-/
namespace Proofing

/-- How far a profile has come. -/
inductive Status where
  | activated
  /-- A code from a letter is awaited. -/
  | pendingLetter
  | pendingFraudReview (why : FraudHold)
  | pendingVisit
  deriving DecidableEq, Repr

namespace Status

/-- The status that a hold means. -/
def ofHold : Hold → Status
  | .fraudReview why => pendingFraudReview why
  | .letter => pendingLetter
  | .inPerson => pendingVisit

/-- The status of a stored profile; an inactive profile that nothing holds back has none. -/
def of (p : Profile) : Option Status :=
  if p.active then some activated else p.hold?.map ofHold

/-- Something is still awaited. -/
def isPending (s : Status) : Bool :=
  s != activated

/-- The status in descriptions. -/
def title : Status → String
  | activated => "Activated"
  | pendingLetter => "PendingGpo"
  | pendingFraudReview why => "PendingFraudReview(" ++ why.title ++ ")"
  | pendingVisit => "PendingInPerson"

end Status

/-- What an attempt to activate a profile came to. -/
inductive Activation where
  | activated
  | blocked (hold : Hold)
  deriving DecidableEq, Repr

/-- The outcome in descriptions. -/
def Activation.title : Activation → String
  | activated => "Activated"
  | blocked h => "Blocked(" ++ h.title ++ ")"

end Proofing
