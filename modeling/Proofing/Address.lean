import Proofing.Mechanism
import Proofing.Phone.Check
/-
  Proofing — the proof of an address.

  An address is proved by a phone that vendor and user have confirmed, or by a
  code in a letter.  Once the letter was chosen it is needed whatever becomes of
  the phone.
-/
namespace Proofing

/-- What there is to prove an address. -/
structure AddressProof where
  /-- The mechanism that was chosen. -/
  mechanism : Option Mechanism
  phone : PhoneCheck
  deriving DecidableEq, Repr

namespace AddressProof

/-- The letter was chosen. -/
def byLetter (a : AddressProof) : Bool :=
  a.mechanism == some .letter

/-- A mechanism is settled: the letter was chosen, or the vendor matched the phone. -/
def isChosen (a : AddressProof) : Bool :=
  a.phone.vendor == some true || a.byLetter

/-- The step is done: the letter was chosen, or both sides confirmed the phone. -/
def isComplete (a : AddressProof) : Bool :=
  a.byLetter || a.phone.isConfirmed

/-- A code from a letter is needed before the profile can be activated. -/
def needsLetter (a : AddressProof) : Bool :=
  a.byLetter || !a.phone.isConfirmed

end AddressProof

end Proofing
