import Proofing.Envelope
import Proofing.Identity
import Proofing.PersonalKey
import Proofing.Profile.Hold
import Proofing.Time
/-
  Proofing — identity profiles.

  A `Draft` is what a profile is made of, `Profile.ofDraft` the profile that a
  registry keeps under a number.  The holds on a profile are listed by
  `Profile.holds`: fraud review first, then the letter, then the visit.

  The JSON form of a profile leaves out the personal key, which only the profile
  that was just made carries.
-/
namespace Proofing

/-- What a new profile is made of. -/
structure Draft where
  user : UserId
  provider : Option ServiceProvider
  /-- The personal data under the password. -/
  pii : Envelope
  /-- The personal data under the personal key. -/
  recovery : Envelope
  personalKey : PersonalKey
  key : IdempotencyKey
  fraud : Option FraudHold
  letterNeeded : Bool
  visitNeeded : Bool

/-- An identity profile. -/
structure Profile where
  id : ProfileId
  user : UserId
  provider : Option ServiceProvider
  /-- The personal data under the password. -/
  pii : Envelope
  /-- The personal data under the personal key. -/
  recovery : Envelope
  /-- No two profiles have the same. -/
  key : IdempotencyKey
  /-- Known only right after the profile was made. -/
  personalKey : Option PersonalKey
  fraud : Option FraudHold
  /-- Since when the code of a letter is awaited. -/
  letterSince : Option Timestamp
  /-- Since when a visit is awaited. -/
  visitSince : Option Timestamp
  active : Bool
  activatedAt : Option Timestamp
  createdAt : Timestamp
  deriving DecidableEq

namespace Profile

/-- The inactive profile that a draft becomes. -/
def ofDraft (id : ProfileId) (d : Draft) (now : Timestamp) : Profile where
  id := id
  user := d.user
  provider := d.provider
  pii := d.pii
  recovery := d.recovery
  key := d.key
  personalKey := some d.personalKey
  fraud := d.fraud
  letterSince := if d.letterNeeded then some now else none
  visitSince := if d.visitNeeded then some now else none
  active := false
  activatedAt := none
  createdAt := now

/-- Everything that holds the profile back, in the order of reporting. -/
def holds (p : Profile) : List Hold :=
  (p.fraud.map Hold.fraudReview).toList ++ (p.letterSince.map fun _ => Hold.letter).toList ++
    (p.visitSince.map fun _ => Hold.inPerson).toList

/-- The first of the holds. -/
def hold? (p : Profile) : Option Hold :=
  p.holds.head?

/-- The profile without the personal key. -/
def withoutKey (p : Profile) : Profile :=
  { p with personalKey := none }

/-- The fields of the JSON form. -/
def record : Record Profile :=
  (fun id user provider pii recovery key fraud letter visit active activated created =>
    ⟨id, user, provider, pii, recovery, key, none, fraud, letter, visit, active, activated,
      created⟩) <$>
    .field "id" <*> .field "user_id" <*> .optional "initiating_service_provider" <*>
    .field "encrypted_pii" <*> .field "encrypted_pii_recovery" <*> .field "idempotency_key" <*>
    .optional "fraud_pending_reason" <*> .optional "gpo_verification_pending_at" <*>
    .optional "in_person_verification_pending_at" <*> .field "active" <*>
    .optional "activated_at" <*> .field "created_at"

/-- The members of the JSON form. -/
def members (p : Profile) : List (String × Json) :=
  [("id", Coded.encode p.id), ("user_id", Coded.encode p.user),
    ("initiating_service_provider", Coded.encode p.provider),
    ("encrypted_pii", Coded.encode p.pii), ("encrypted_pii_recovery", Coded.encode p.recovery),
    ("idempotency_key", Coded.encode p.key), ("fraud_pending_reason", Coded.encode p.fraud),
    ("gpo_verification_pending_at", Coded.encode p.letterSince),
    ("in_person_verification_pending_at", Coded.encode p.visitSince),
    ("active", Coded.encode p.active), ("activated_at", Coded.encode p.activatedAt),
    ("created_at", Coded.encode p.createdAt)]

instance : Coded Profile := ⟨fun p => .ofMembers p.members, record.decode "Profile"⟩

end Profile

end Proofing
