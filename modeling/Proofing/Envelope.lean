import Proofing.Crypto.Argon2id
import Proofing.Crypto.Gcm
import Proofing.Hex
import Proofing.Password
import Proofing.Pii.Basic
/-
  Proofing — sealed personal data.

  An envelope holds the JSON text of personal data, encrypted under a key that is
  derived from a password, and everything but the password that is needed to get
  it back.

  * `Envelope.lock` seals personal data; the random salt and nonce are arguments;
  * `Envelope.unlock` opens an envelope, and `EnvelopeError` lists the reasons
    for which it cannot be opened, in the order in which they are looked for.
-/
namespace Proofing

/-- What deriving a key from a password costs. -/
abbrev KeyCost := Crypto.Argon2id.Cost

namespace KeyCost

/-- 64 MiB of memory, three passes, one lane. -/
def standard : KeyCost := ⟨65536, 3, 1⟩

/-- 1 MiB of memory, one pass, one lane: quick, and no protection. -/
def light : KeyCost := ⟨1024, 1, 1⟩

/-- The fields of a cost. -/
def record : Record KeyCost :=
  Crypto.Argon2id.Cost.mk <$> .field "memory_kib" <*> .field "iterations" <*> .field "parallelism"

instance : Coded KeyCost where
  encode c := .ofMembers [("memory_kib", Coded.encode c.memory),
    ("iterations", Coded.encode c.passes), ("parallelism", Coded.encode c.lanes)]
  decode := record.decode "KdfParams"

end KeyCost

/-- A part of an envelope that is written in hexadecimal digits. -/
inductive EnvelopePart where
  | salt
  | nonce
  | ciphertext
  deriving DecidableEq, Repr

/-- The name of a part. -/
def EnvelopePart.name : EnvelopePart → String
  | salt => "salt"
  | nonce => "nonce"
  | ciphertext => "ciphertext"

/-- Why an envelope cannot be sealed or opened. -/
inductive EnvelopeError where
  /-- The form of the envelope has another version. -/
  | version (found : UInt32)
  | badHex (part : EnvelopePart) (e : Hex.Error)
  | nonceLength (found : Nat)
  /-- The cost or the salt does not allow to derive a key. -/
  | noKey (e : Crypto.Argon2id.Error)
  /-- The password is wrong or the ciphertext was changed. -/
  | notAuthentic
  /-- The decrypted text is no personal data. -/
  | notPii
  deriving DecidableEq, Repr

/-- Octets of a nonce. -/
def nonceSize : Nat := 12

/-- The wording of a refusal. -/
def EnvelopeError.message : EnvelopeError → String
  | version found => "unsupported envelope version: " ++ toString found.toNat
  | badHex part e => "malformed envelope: invalid " ++ part.name ++ " hex: " ++ e.message
  | nonceLength found =>
    "malformed envelope: invalid nonce length: expected " ++ toString nonceSize ++ ", got " ++
      toString found
  | noKey .shortSalt =>
    "key derivation failed: Argon2 hashing failed: " ++ Crypto.Argon2id.Error.shortSalt.message
  | noKey e => "key derivation failed: Argon2 params error: " ++ e.message
  | notAuthentic => "decryption failed: wrong password or corrupted data"
  | notPii => "serialization error"

/-- Sealed personal data. -/
structure Envelope where
  /-- The version of the form. -/
  version : UInt32
  /-- The name of the cipher. -/
  cipher : String
  /-- The name of the function that derives the key. -/
  derivation : String
  cost : KeyCost
  /-- The salt in hexadecimal digits. -/
  salt : String
  /-- The nonce in hexadecimal digits. -/
  nonce : String
  /-- The encrypted text with its tag in hexadecimal digits. -/
  ciphertext : String
  deriving DecidableEq

namespace Envelope

/-- The fields of an envelope. -/
def record : Record Envelope :=
  Envelope.mk <$> .field "version" <*> .field "cipher" <*> .field "kdf" <*> .field "kdf_params" <*>
    .field "salt" <*> .field "nonce" <*> .field "ciphertext"

instance : Coded Envelope where
  encode e := .ofMembers [("version", Coded.encode e.version), ("cipher", .str e.cipher),
    ("kdf", .str e.derivation), ("kdf_params", Coded.encode e.cost), ("salt", .str e.salt),
    ("nonce", .str e.nonce), ("ciphertext", .str e.ciphertext)]
  decode := record.decode "EncryptedPii"

/-- The version of the form that is written and read. -/
def currentVersion : UInt32 := 1

/-- Octets of a key. -/
def keySize : Nat := 32

/-- Octets of a salt. -/
def saltSize : Nat := 32

/-- The random octets of an envelope. -/
structure Draw where
  salt : Fin saltSize → UInt8
  nonce : Fin nonceSize → UInt8

/-- The key that a password and a salt give. -/
def key (cost : KeyCost) (password : Password) (salt : List UInt8) :
    Except EnvelopeError (List UInt8) :=
  (Crypto.Argon2id.hash cost keySize (Text.octets password.text) salt).mapError .noKey

/-- Seals personal data under a password. -/
def lock (pii : Pii) (password : Password) (cost : KeyCost) (draw : Draw) :
    Except EnvelopeError Envelope := do
  let salt := List.ofFn draw.salt
  let nonce := List.ofFn draw.nonce
  let k ← key cost password salt
  return {
    version := currentVersion
    cipher := "aes-256-gcm"
    derivation := "argon2id"
    cost := cost
    salt := Hex.encode salt
    nonce := Hex.encode nonce
    ciphertext := Hex.encode (Crypto.Gcm.encrypt k nonce (Text.octets pii.text)) }

/-- The octets of a part. -/
def octets (part : EnvelopePart) (digits : String) : Except EnvelopeError (List UInt8) :=
  (Hex.decode digits).mapError (.badHex part)

/-- The personal data in an envelope. -/
def unlock (e : Envelope) (password : Password) : Except EnvelopeError Pii := do
  if e.version ≠ currentVersion then throw (.version e.version)
  let salt ← octets .salt e.salt
  let nonce ← octets .nonce e.nonce
  let ciphertext ← octets .ciphertext e.ciphertext
  if nonce.length ≠ nonceSize then throw (.nonceLength nonce.length)
  let k ← key e.cost password salt
  match Crypto.Gcm.decrypt? k nonce ciphertext with
  | none => throw .notAuthentic
  | some text =>
    match Pii.ofSource? (.ofOctets text) with
    | none => throw .notPii
    | some pii => return pii

end Envelope

end Proofing
