import Proofing.Envelope
/-
  Proofing — failures of the services that a flow needs: storage and vendors.
-/
namespace Proofing

/-- Why a registry or a vault did not do what it was asked for. -/
inductive StoreFault where
  | notFound (what : String)
  | duplicate (key : String)
  | backend (text : String)
  /-- A stored text cannot be read. -/
  | unreadable
  | sealing (e : EnvelopeError)
  deriving DecidableEq, Repr

/-- The wording of a failure. -/
def StoreFault.message : StoreFault → String
  | notFound what => "key not found: " ++ what
  | duplicate key => "duplicate key: " ++ key
  | backend text => "storage backend error: " ++ text
  | unreadable => "serialization error"
  | sealing e => "encryption error: " ++ e.message

/-- Why a vendor did not do what it was asked for. -/
inductive VendorFault where
  | unavailable (text : String)
  | rejected (text : String)
  | timeout
  deriving DecidableEq, Repr

/-- The wording of a failure. -/
def VendorFault.message : VendorFault → String
  | unavailable text => "vendor unavailable: " ++ text
  | rejected text => "vendor rejected the request: " ++ text
  | timeout => "vendor call timed out"

end Proofing
