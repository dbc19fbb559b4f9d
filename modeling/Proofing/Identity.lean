import Proofing.Uuid
import Proofing.Json.Record
/-
  Proofing — who and what a record is about: users, profiles, web sessions,
  service providers, and the key that ties a profile to one run of the flow.
-/
namespace Proofing

/-- A user account. -/
structure UserId where
  uuid : Uuid
  deriving DecidableEq

/-- A profile, numbered by the registry that keeps it. -/
structure ProfileId where
  number : UInt64
  deriving DecidableEq, Repr

/-- A web session of the host application. -/
structure SessionId where
  text : String
  deriving DecidableEq, Repr

/-- The relying party that sent the user into the flow. -/
structure ServiceProvider where
  issuer : String
  deriving DecidableEq, Repr

/-- Shared by all attempts to finish one run of the flow; no two profiles have the same. -/
structure IdempotencyKey where
  text : String
  deriving DecidableEq, Repr

instance : ToString UserId := ⟨fun u => toString u.uuid⟩

instance : ToString ProfileId := ⟨fun p => toString p.number.toNat⟩

instance : Coded UserId := ⟨fun u => Coded.encode u.uuid, fun j => (Coded.decode j).map UserId.mk⟩

instance : Coded ProfileId :=
  ⟨fun p => Coded.encode p.number, fun j => (Coded.decode j).map ProfileId.mk⟩

instance : Coded SessionId := ⟨fun s => .str s.text, fun j => (Coded.decode j).map SessionId.mk⟩

instance : Coded IdempotencyKey :=
  ⟨fun k => .str k.text, fun j => (Coded.decode j).map IdempotencyKey.mk⟩

/-- The fields of a service provider. -/
def ServiceProvider.record : Record ServiceProvider :=
  ServiceProvider.mk <$> .field "issuer"

instance : Coded ServiceProvider where
  encode p := .ofMembers [("issuer", .str p.issuer)]
  decode := ServiceProvider.record.decode "ServiceProvider"

end Proofing
