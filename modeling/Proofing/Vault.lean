import Proofing.Fault
import Proofing.Pii.Held
import Proofing.Profile.Basic
/-
  Proofing — the vault, where the personal data of users is kept between
  requests.

  * `Vault.stage` opens the data of a new profile, to be staged in a session,
    and `Vault.persist` takes staged data into the vault;
  * data can also be reached by a token (`Vault.keep`, `Vault.fetch`), by the
    user who holds it alone.
-/
namespace Proofing

/-- The personal data of users. -/
structure Vault where
  /-- The data of a user and the profile that it belongs to. -/
  durable : UserId → Option (ProfileId × Pii)
  /-- What the tokens of a user stand for. -/
  references : UserId → CacheToken → Option Pii
  /-- How often staged data was taken into the vault. -/
  writes : Nat
  /-- Opening the data of a profile fails. -/
  failSaves : Bool
  /-- Taking data into the vault fails. -/
  failWrites : Bool

namespace Vault

/-- Nothing kept. -/
def empty : Vault where
  durable := fun _ => none
  references := fun _ _ => none
  writes := 0
  failSaves := false
  failWrites := false

/-- The failure that is switched on. -/
def injected : StoreFault := .backend "injected cache failure"

/-- The vault with an entry for a user. -/
def enter (v : Vault) (user : UserId) (profile : ProfileId) (pii : Pii) : Vault :=
  { v with durable := fun u => if u = user then some (profile, pii) else v.durable u }

/-- Keeps data that a token stands for. -/
def keep (v : Vault) (user : UserId) (token : CacheToken) (profile : ProfileId) (pii : Pii) :
    Vault :=
  { v.enter user profile pii with
    references := fun u t => if u = user ∧ t = token then some pii else v.references u t }

/-- Forgets everything about a user. -/
def evict (v : Vault) (user : UserId) : Vault :=
  { v with
    durable := fun u => if u = user then none else v.durable u
    references := fun u t => if u = user then none else v.references u t }

/-- Opens the data of a profile and stages it; it has to be the data that the caller has. -/
def stage (v : Vault) (password : Password) (profile : Profile) (pii : Pii) :
    Except StoreFault StagedText := do
  if v.failSaves then throw injected
  let found ← (profile.pii.unlock password).mapError .sealing
  if found ≠ pii then throw (.backend "sealed PII does not match the session")
  return .ofPii found

/-- Takes staged data into the vault. -/
def persist (v : Vault) (user : UserId) (profile : ProfileId) (staged : StagedText) :
    Except StoreFault Vault :=
  if v.failWrites then .error injected
  else
    match staged.toPii? with
    | none => .error .unreadable
    | some pii => .ok { v.enter user profile pii with writes := v.writes + 1 }

/-- The data that a token of a user stands for. -/
def fetch (v : Vault) (user : UserId) (token : CacheToken) : Except StoreFault Pii :=
  match v.references user token with
  | some pii => .ok pii
  | none => .error (.notFound ("pii reference for " ++ toString user))

/-- There is data of the user. -/
def holds (v : Vault) (user : UserId) : Bool :=
  (v.durable user).isSome

end Vault

end Proofing
