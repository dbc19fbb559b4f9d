import Proofing.Fault
import Proofing.Identity
/-
  Proofing — letters with a code that proves an address.
-/
namespace Proofing

/-- The code in a letter. -/
structure LetterCode where
  text : String
  deriving DecidableEq, Repr

namespace LetterCode

/-- What is shown in place of a code. -/
def redacted : String := "GpoOtp(<redacted>)"

/-- The digits of a number, with zeros in front of them up to a width. -/
def padded (width n : Nat) : String :=
  let digits := toString n
  String.ofList (List.replicate (width - digits.length) '0') ++ digits

/-- The code of the letter with a number. -/
def ofNumber (n : Nat) : LetterCode :=
  ⟨"GPO" ++ padded 7 n⟩

end LetterCode

/-- A letter that was sent. -/
structure Letter where
  profile : ProfileId
  provider : Option ServiceProvider
  code : LetterCode
  deriving DecidableEq, Repr

/-- The letters that were sent, in order. -/
structure Mailroom where
  letters : List Letter
  /-- The number of the next letter. -/
  nextNumber : UInt64
  /-- Sending a letter fails. -/
  fail : Bool
  deriving DecidableEq, Repr

namespace Mailroom

/-- No letters; they are numbered from one. -/
def empty : Mailroom where
  letters := []
  nextNumber := 1
  fail := false

/-- Sends the letter for a profile. -/
def send (m : Mailroom) (provider : Option ServiceProvider) (profile : ProfileId) :
    Except VendorFault (LetterCode × Mailroom) :=
  if m.fail then .error (.unavailable "injected gpo failure")
  else
    let code := LetterCode.ofNumber m.nextNumber.toNat
    .ok (code, { m with
      letters := m.letters ++ [⟨profile, provider, code⟩]
      nextNumber := m.nextNumber + 1 })

/-- How many letters were sent for a profile. -/
def countFor (m : Mailroom) (profile : ProfileId) : Nat :=
  m.letters.countP (·.profile == profile)

end Mailroom

end Proofing
