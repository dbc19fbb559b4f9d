import Proofing.Json.Decode
/-
  Proofing — how an address is proved, and where documents are captured.
-/
namespace Proofing

/-- How the applicant proves the address. -/
inductive Mechanism where
  /-- By a phone that belongs to the applicant. -/
  | phone
  /-- By a code in a letter to the address. -/
  | letter
  deriving DecidableEq, Repr

/-- The name in stored data. -/
def Mechanism.name : Mechanism → String
  | phone => "phone"
  | letter => "gpo"

/-- The name in descriptions of a phase. -/
def Mechanism.title : Mechanism → String
  | phone => "Phone"
  | letter => "Gpo"

instance : Variants Mechanism := ⟨[("phone", .phone), ("gpo", .letter)], Mechanism.name⟩

/-- Whether documents are captured on this device or on a phone. -/
inductive CapturePath where
  | standard
  | hybrid
  deriving DecidableEq, Repr

/-- The name in stored data. -/
def CapturePath.name : CapturePath → String
  | standard => "standard"
  | hybrid => "hybrid"

instance : Variants CapturePath :=
  ⟨[("standard", .standard), ("hybrid", .hybrid)], CapturePath.name⟩

end Proofing
