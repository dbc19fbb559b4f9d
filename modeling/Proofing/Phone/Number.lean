import Proofing.Json.Decode
/-
  Proofing — phone numbers in international form (E.164).

  A number is a plus sign and 8 to 15 digits, the first of them not zero.  Two
  texts that name one line are made equal by a `PhoneReader`, of which `Normalizer`
  is one; this module only says which texts are numbers.
-/
namespace Proofing

/-- An ASCII digit. -/
def isDigit (c : Char) : Bool :=
  '0' ≤ c && c ≤ '9'

namespace PhoneNumber

/-- Eight to fifteen digits, the first of them not zero. -/
def isSubscriber (ds : List Char) : Bool :=
  8 ≤ ds.length && ds.length ≤ 15 && ds.all isDigit && ds.head? != some '0'

/-- A plus sign and such digits. -/
def isWellFormed : List Char → Bool
  | '+' :: ds => isSubscriber ds
  | _ => false

end PhoneNumber

/-- A phone number in international form. -/
structure PhoneNumber where
  text : String
  wellFormed : PhoneNumber.isWellFormed text.toList = true
  deriving DecidableEq

namespace PhoneNumber

/-- The number that a text is, character by character. -/
def parse (text : String) : Except FormatError PhoneNumber :=
  if h : isWellFormed text.toList then .ok ⟨text, h⟩ else .error (.phone text)

/-- A number is the number of its text. -/
theorem parse_text (n : PhoneNumber) : parse n.text = .ok n := by
  simp [parse, n.wellFormed]

instance : ToString PhoneNumber := ⟨PhoneNumber.text⟩

instance : Coded PhoneNumber := ⟨fun n => .str n.text, Decode.text parse⟩

end PhoneNumber

/-- What makes numbers of texts as people write them. -/
class PhoneReader (ν : Type) where
  parse : ν → String → Except FormatError PhoneNumber

end Proofing
