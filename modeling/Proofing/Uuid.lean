import Proofing.Hex
import Proofing.Json.Decode
import Proofing.Text.Blank
/-
  Proofing — universally unique identifiers.

  An identifier is 16 octets.  It is written as hexadecimal digits in five
  groups; `Uuid.parse?` also takes the digits without hyphens, and the grouped
  form in braces or after `urn:uuid:`.
-/
namespace Proofing

/-- Sixteen octets. -/
structure Uuid where
  octets : List UInt8
  size : octets.length = 16
  deriving DecidableEq

namespace Uuid

/-- The numbers of digits in the groups of the written form. -/
def groups : List Nat := [8, 4, 4, 4, 12]

/-- Characters in groups of the given sizes with hyphens between them. -/
def group : List Nat → List Char → List Char
  | [], _ => []
  | [_], cs => cs
  | n :: ns, cs => cs.take n ++ '-' :: group ns (cs.drop n)

/-- The characters of groups of the given sizes with hyphens between them. -/
def ungroup? : List Nat → List Char → Option (List Char)
  | [], cs => if cs.isEmpty then some [] else none
  | [n], cs => if cs.length = n then some cs else none
  | n :: ns, cs =>
    match cs.drop n with
    | '-' :: rest => (ungroup? ns rest).map (cs.take n ++ ·)
    | _ => none

/-- The identifier of 32 digits. -/
def ofDigits? (cs : List Char) : Option Uuid :=
  match Hex.decode (String.ofList cs) with
  | .ok bs => if h : bs.length = 16 then some ⟨bs, h⟩ else none
  | .error _ => none

/-- The grouped digits inside one of the accepted forms, or the digits alone. -/
def digits? (cs : List Char) : Option (List Char) :=
  let urn := "urn:uuid:".toList
  if cs.length = 32 then some cs
  else if cs.length = 38 ∧ cs.head? = some '{' ∧ cs.getLast? = some '}' then
    ungroup? groups ((cs.drop 1).take 36)
  else if cs.length = 45 ∧ Text.lower (cs.take urn.length) = urn then
    ungroup? groups (cs.drop urn.length)
  else ungroup? groups cs

/-- The identifier that a text names. -/
def parse? (text : String) : Option Uuid :=
  (digits? text.toList).bind ofDigits?

/-- The written form, in lower case. -/
def toString (u : Uuid) : String :=
  String.ofList (group groups (Hex.encodeChars u.octets))

instance : ToString Uuid := ⟨Uuid.toString⟩

/-- Reads an identifier. -/
def decode : Decoder Uuid
  | .str s =>
    match parse? s with
    | some u => .ok u
    | none => .error .badUuid
  | j => .error (.wrongType j "a formatted UUID string")

instance : Coded Uuid := ⟨fun u => .str u.toString, decode⟩

/-- The version number that the identifier states. -/
def version (u : Uuid) : Nat :=
  (u.octets.getD 6 0).toNat / 16

/-- The identifier of version 4 that is made from random octets. -/
def random (octets : List UInt8) (size : octets.length = 16) : Uuid where
  octets := (octets.modify 6 fun b => b &&& 0x0F ||| 0x40).modify 8 fun b => b &&& 0x3F ||| 0x80
  size := by simp [size]

end Uuid

end Proofing
