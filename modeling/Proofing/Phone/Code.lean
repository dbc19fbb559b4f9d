import Proofing.Phone.Number
import Proofing.Json.Record
import Proofing.Time
/-
  Proofing — one-time codes sent to a phone, and what the user entered to get
  them.
-/
namespace Proofing

/-- How a code reaches the phone. -/
inductive Delivery where
  | sms
  | voice
  deriving DecidableEq, Repr

/-- The name in stored data. -/
def Delivery.name : Delivery → String
  | sms => "sms"
  | voice => "voice"

instance : Variants Delivery := ⟨[("sms", .sms), ("voice", .voice)], Delivery.name⟩

/-- A code that was sent and not used yet. -/
structure SentCode where
  phone : PhoneNumber
  delivery : Delivery
  sentAt : Timestamp
  /-- For how many seconds the code can be used. -/
  lifetime : UInt64
  deriving DecidableEq

namespace SentCode

/-- The code can no longer be used. -/
def expired (c : SentCode) (now : Timestamp) : Bool :=
  c.sentAt.expired c.lifetime now

/-- The fields of a sent code. -/
def record : Record SentCode :=
  SentCode.mk <$> .field "phone" <*> .field "delivery_method" <*> .field "sent_at" <*>
    .field "ttl_secs"

instance : Coded SentCode where
  encode c := .ofMembers [("phone", Coded.encode c.phone),
    ("delivery_method", Coded.encode c.delivery), ("sent_at", Coded.encode c.sentAt),
    ("ttl_secs", Coded.encode c.lifetime)]
  decode := record.decode "PhoneOtpSession"

end SentCode

/-- The last entry on the page that asks for a phone, shown again when the user comes back. -/
structure PhoneEntry where
  phone : String
  delivery : Delivery
  deriving DecidableEq, Repr

namespace PhoneEntry

/-- The fields of an entry; codes go out by text message unless the user chose otherwise. -/
def record : Record PhoneEntry :=
  PhoneEntry.mk <$> .field "phone" <*> .defaulted "otp_delivery_preference" .sms

instance : Coded PhoneEntry where
  encode e := .ofMembers [("phone", .str e.phone),
    ("otp_delivery_preference", Coded.encode e.delivery)]
  decode := record.decode "PhoneStepParams"

end PhoneEntry

end Proofing
