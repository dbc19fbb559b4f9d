import Proofing.Crypto.Blake2b
import Proofing.Identity
/-
  Proofing — the key that all attempts to finish one run of the flow share.

  The key is a hash of the web session, the nonce of the run (there is none until
  the flow is restarted) and the user, with a separator between them.
-/
namespace Proofing.IdempotencyKey

/-- Keeps these keys apart from other uses of the hash. -/
def domain : String := "idv-profile-create"

/-- The octets that are hashed. -/
def preimage (session : SessionId) (flow : Option Uuid) (user : UserId) : List UInt8 :=
  Text.octets domain ++ Text.octets session.text ++ [0] ++
    (flow.map Uuid.octets).getD [] ++ [0] ++ user.uuid.octets

/-- Octets of a hash. -/
def size : Nat := 32

/-- The key of a run of the flow. -/
def derive (session : SessionId) (flow : Option Uuid) (user : UserId) : IdempotencyKey :=
  ⟨Hex.encode (Crypto.Blake2b.hash size (preimage session flow user))⟩

end Proofing.IdempotencyKey
