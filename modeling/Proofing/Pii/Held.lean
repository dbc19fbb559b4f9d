import Proofing.Pii.Basic
/-
  Proofing — where a session keeps personal data.

  * `HeldPii` is the data itself or a token for data in the vault; in JSON a
    text is a token and anything else has to be the data.
  * `StagedText` is the JSON text of decrypted data on its way to the vault.
-/
namespace Proofing

/-- A token for personal data in the vault. -/
structure CacheToken where
  text : String
  deriving DecidableEq, Repr

/-- The token that a text is; a blank text is none. -/
def CacheToken.parse (raw : String) : Except FormatError CacheToken :=
  if Text.allBlank raw then .error (.cacheToken raw) else .ok ⟨raw⟩

/-- Stored tokens are taken as they are. -/
instance : Coded CacheToken := ⟨fun t => .str t.text, fun j => (Coded.decode j).map CacheToken.mk⟩

/-- Personal data, or a token for it. -/
inductive HeldPii where
  | reference (token : CacheToken)
  | inline (pii : Pii)
  deriving DecidableEq

namespace HeldPii

/-- The data, if it is here. -/
def inline? : HeldPii → Option Pii
  | inline p => some p
  | reference _ => none

/-- The data is elsewhere. -/
def isReference : HeldPii → Bool
  | reference _ => true
  | inline _ => false

/-- Writes a token as a text and data as an object. -/
def encode : HeldPii → Json
  | reference t => Coded.encode t
  | inline p => Coded.encode p

/-- Takes any text as a token. -/
def decode (j : Json) : Except DecodeError HeldPii :=
  match (Coded.decode j : Except DecodeError CacheToken) with
  | .ok t => .ok (reference t)
  | .error _ =>
    match (Coded.decode j : Except DecodeError Pii) with
    | .ok p => .ok (inline p)
    | .error _ => .error (.noVariantFits "PiiPayload")

instance : Coded HeldPii := ⟨encode, decode⟩

end HeldPii

/-- The JSON text of decrypted personal data. -/
structure StagedText where
  json : String
  deriving DecidableEq

namespace StagedText

/-- The text of personal data. -/
def ofPii (p : Pii) : StagedText :=
  ⟨p.text⟩

/-- The personal data in the text. -/
def toPii? (t : StagedText) : Option Pii :=
  Pii.ofText? t.json

/-- Nothing is staged. -/
def isBlank (t : StagedText) : Bool :=
  Text.allBlank t.json

instance : Coded StagedText := ⟨fun t => .str t.json, fun j => (Coded.decode j).map StagedText.mk⟩

/-- What is shown in place of a staged text. -/
def redacted : String := "StagedPii(<redacted>)"

end StagedText

end Proofing
