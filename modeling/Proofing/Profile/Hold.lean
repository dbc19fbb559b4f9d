import Proofing.Fraud
/-
  Proofing — what holds a profile back from activation.
-/
namespace Proofing

/-- A condition that holds a profile back. -/
inductive Hold where
  /-- A fraud review is open. -/
  | fraudReview (why : FraudHold)
  /-- The code in the letter was not entered yet. -/
  | letter
  /-- The visit in person has not taken place yet. -/
  | inPerson
  deriving DecidableEq, Repr

namespace Hold

/-- The names in stored data, in the order in which messages list them. -/
def names : List String := ["FraudReview", "GpoVerification", "InPersonVerification"]

/-- The hold in descriptions. -/
def title : Hold → String
  | fraudReview why => "FraudReview(" ++ why.title ++ ")"
  | letter => "GpoVerification"
  | inPerson => "InPersonVerification"

/-- A fraud review is an object with its reason, every other hold a name. -/
def encode : Hold → Json
  | fraudReview why => .ofMembers [("FraudReview", Coded.encode why)]
  | letter => .str "GpoVerification"
  | inPerson => .str "InPersonVerification"

/-- The hold with a name and, in the form of an object, a value. -/
def ofName (name : String) (value : Option Json) : Except DecodeError Hold :=
  match name, value with
  | "FraudReview", some j => (Coded.decode j).map fraudReview
  | "FraudReview", none => .error .variantWithoutValue
  | "GpoVerification", value => plain letter value
  | "InPersonVerification", value => plain inPerson value
  | name, _ => .error (.unknownVariant name names)
where
  plain (h : Hold) : Option Json → Except DecodeError Hold
    | none | some .null => .ok h
    | some j => .error (.wrongType j "unit")

/-- Reads a name, or an object with one member. -/
def decode : Decoder Hold
  | .str s => ofName s none
  | .obj [(k, v)] => ofName k (some v)
  | .obj _ => .error .notOneMember
  | j => .error (.wrongType j "string or map")

instance : Coded Hold := ⟨encode, decode⟩

end Hold

end Proofing
