import Proofing.Idempotency
import Proofing.Profile.Basic
/-
  Proofing — making the draft of a profile.

  The applicant is sealed twice: under the password, and under a new personal
  key, so that either of them opens the data later.
-/
namespace Proofing

/-- What will hold a new profile back. -/
structure Conditions where
  fraud : Option FraudHold
  letterNeeded : Bool
  visitNeeded : Bool
  deriving DecidableEq, Repr

namespace Draft

/-- The random choices in a draft. -/
structure Draw where
  personalKey : Fin 16 → Fin 32
  pii : Envelope.Draw
  recovery : Envelope.Draw

/-- The draft for an applicant. -/
def make (applicant : Pii) (user : UserId) (provider : Option ServiceProvider) (cost : KeyCost)
    (password : Password) (session : SessionId) (flow : Option Uuid) (conditions : Conditions)
    (draw : Draw) : Except EnvelopeError Draft := do
  let personalKey := PersonalKey.draw draw.personalKey
  let pii ← Envelope.lock applicant password cost draw.pii
  let recovery ← Envelope.lock applicant personalKey.password cost draw.recovery
  return {
    user := user
    provider := provider
    pii := pii
    recovery := recovery
    personalKey := personalKey
    key := .derive session flow user
    fraud := conditions.fraud
    letterNeeded := conditions.letterNeeded
    visitNeeded := conditions.visitNeeded }

end Draft

end Proofing
