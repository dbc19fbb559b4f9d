/-
  Proofing — whether a phone is confirmed.

  A phone is confirmed by two sides: the vendor matches it to the applicant, and
  the user proves to hold it.  The user's side means nothing without the
  vendor's, so both are one state; `vendor` and `user` show the sides,
  `withVendor` and `withUser` take a new result for one of them.
-/
namespace Proofing

/-- Where the check of a phone stands. -/
inductive PhoneCheck where
  | notStarted
  /-- The vendor matched the phone to the applicant. -/
  | vendorConfirmed
  /-- The vendor matched the phone, and the user proved to hold it. -/
  | userConfirmed
  /-- The vendor did not match the phone. -/
  | rejected
  deriving DecidableEq, Repr, Inhabited

namespace PhoneCheck

/-- The vendor's result. -/
def vendor : PhoneCheck → Option Bool
  | notStarted => none
  | vendorConfirmed | userConfirmed => some true
  | rejected => some false

/-- The user's result. -/
def user : PhoneCheck → Option Bool
  | userConfirmed => some true
  | _ => none

/-- Takes a result of the vendor; all but a match drop the user's result. -/
def withVendor (p : PhoneCheck) : Option Bool → PhoneCheck
  | none => notStarted
  | some false => rejected
  | some true => if p = userConfirmed then userConfirmed else vendorConfirmed

/-- Takes a result of the user.  None where that cannot be: a confirmation before the vendor's,
    or an explicit `false`. -/
def withUser (p : PhoneCheck) : Option Bool → Option PhoneCheck
  | none => some (if p = userConfirmed then vendorConfirmed else p)
  | some true => if p.vendor = some true then some userConfirmed else none
  | some false => none

/-- Both sides confirmed. -/
def isConfirmed (p : PhoneCheck) : Bool :=
  p == userConfirmed

/-- The name of a state. -/
def name : PhoneCheck → String
  | notStarted => "NotStarted"
  | vendorConfirmed => "VendorConfirmed"
  | userConfirmed => "UserConfirmed"
  | rejected => "Rejected"

/-- The state with a name. -/
def ofName? (s : String) : Option PhoneCheck :=
  [notStarted, vendorConfirmed, userConfirmed, rejected].find? (·.name == s)

end PhoneCheck

end Proofing
