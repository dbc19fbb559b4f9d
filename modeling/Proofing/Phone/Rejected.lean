import Proofing.Phone.Number
/-
  Proofing — the phone numbers that the vendor has turned down, in the order in
  which they came up, each one once.
-/
namespace Proofing

/-- Numbers that were turned down. -/
structure RejectedNumbers where
  numbers : List PhoneNumber
  deriving DecidableEq

namespace RejectedNumbers

/-- No number yet. -/
def empty : RejectedNumbers := ⟨[]⟩

/-- Notes the number that a text names, and says whether it is new. -/
def note {ν : Type} [PhoneReader ν] (r : RejectedNumbers) (reader : ν) (raw : String) :
    Except FormatError (Bool × RejectedNumbers) := do
  let number ← PhoneReader.parse reader raw
  return if number ∈ r.numbers then (false, r) else (true, ⟨r.numbers ++ [number]⟩)

instance : Coded RejectedNumbers :=
  ⟨fun r => Coded.encode r.numbers, fun j => (Coded.decode j).map RejectedNumbers.mk⟩

end RejectedNumbers

end Proofing
