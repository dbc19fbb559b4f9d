import Proofing.Phone.Number
import Proofing.Text.Blank
/-
  Proofing — phone numbers as people write them.

  A leading plus sign or double zero marks an international number.  Any other
  number is completed with the country code of the normalizer, unless it starts
  with that code and is longer than a national number.  Spaces, hyphens,
  parentheses and dots may stand anywhere among the digits.
-/
namespace Proofing

/-- The country that numbers without a country code belong to. -/
structure Normalizer where
  countryCode : String
  deriving DecidableEq, Repr

namespace Normalizer

/-- The characters that may stand among the digits. -/
def isSeparator (c : Char) : Bool :=
  c == ' ' || c == '-' || c == '(' || c == ')' || c == '.'

/-- The number of digits of a national number: area code and subscriber. -/
def nationalLength : Nat := 10

/-- Whether an international number follows, and the characters after the mark for it. -/
def mark : List Char → Bool × List Char
  | '+' :: rest => (true, rest)
  | '0' :: '0' :: rest => (true, rest)
  | cs => (false, cs)

/-- The digits among the separators; none when anything else stands there. -/
def digits? (cs : List Char) : Option (List Char) :=
  if cs.all fun c => isDigit c || isSeparator c then some (cs.filter isDigit) else none

/-- The digits of the international form. -/
def complete (n : Normalizer) (international : Bool) (ds : List Char) : List Char :=
  let code := n.countryCode.toList
  if international || (nationalLength < ds.length && code.isPrefixOf ds) then ds else code ++ ds

/-- The number that a text names. -/
def parse (n : Normalizer) (raw : String) : Except FormatError PhoneNumber :=
  let (international, body) := mark (Text.trim raw.toList)
  match digits? body with
  | none | some [] => .error (.phone raw)
  | some ds =>
    match PhoneNumber.parse (String.ofList ('+' :: n.complete international ds)) with
    | .ok number => .ok number
    | .error _ => .error (.phone raw)

instance : PhoneReader Normalizer := ⟨parse⟩

end Normalizer

end Proofing
