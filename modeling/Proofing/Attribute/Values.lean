import Proofing.Attribute.Basic
import Proofing.FlowError
import Proofing.Phone.Check
/-
  Proofing — the values of the attributes.

  `Attributes` holds a value or none for each slot, and the state of the phone
  check, of which two attributes are the sides.  `get` reads an attribute as
  JSON, `set` writes it: no value and `null` clear it.

  * The number of a profile is written once: it can be neither changed nor
    cleared (`setProfileId`).
  * A result of the vendor other than a match drops the user's confirmation, and
    the user's confirmation is refused without the vendor's.
-/
namespace Proofing

/-- The values of all attributes. -/
structure Attributes where
  held : (s : Slot) → Option s.Value
  phone : PhoneCheck

namespace Attributes

/-- No values. -/
def empty : Attributes := ⟨fun _ => none, .notStarted⟩

/-- Writes a slot. -/
def put (as : Attributes) (s : Slot) (v : Option s.Value) : Attributes :=
  { as with held := fun t => if h : t = s then h ▸ v else as.held t }

theorem held_put_self (as : Attributes) (s : Slot) (v : Option s.Value) :
    (as.put s v).held s = v := by
  simp [put]

theorem held_put_of_ne (as : Attributes) {s t : Slot} (v : Option s.Value) (h : t ≠ s) :
    (as.put s v).held t = as.held t := by
  simp [put, h]

theorem phone_put (as : Attributes) (s : Slot) (v : Option s.Value) :
    (as.put s v).phone = as.phone :=
  rfl

/-- The number of the profile. -/
def profileId (as : Attributes) : Option ProfileId :=
  as.held .profileId

/-- Records the number of the profile, unless there is another one. -/
def setProfileId (as : Attributes) (id : Option ProfileId) : Except FlowError Attributes :=
  match as.profileId with
  | some existing =>
    if id = some existing then .ok (as.put .profileId id) else .error (.profileExists existing)
  | none => .ok (as.put .profileId id)

/-- An attribute as JSON. -/
def get (as : Attributes) : Attribute → Option Json
  | .slot s => (as.held s).map Coded.encode
  | .userPhone => as.phone.user.map .bool
  | .vendorPhone => as.phone.vendor.map .bool

/-- The value that an attribute is given by JSON. -/
def read {α : Type} [Coded α] (a : Attribute) : Option Json → Except FlowError (Option α)
  | none | some .null => .ok none
  | some j =>
    match Coded.decode j with
    | .ok v => .ok (some v)
    | .error e => .error (.invalidValue a.name (.undecodable e))

/-- Writes an attribute given by JSON. -/
def set (as : Attributes) (a : Attribute) (value : Option Json) : Except FlowError Attributes :=
  match a with
  | .slot .profileId => do as.setProfileId (← read a value)
  | .slot s => do return as.put s (← read a value)
  | .userPhone => do
    let confirmed : Option Bool ← read a value
    match as.phone.withUser confirmed with
    | some phone => return { as with phone }
    | none =>
      throw (.invalidValue a.name
        (if confirmed = some false then .onlyTrueOrNull else .phoneNotMatched))
  | .vendorPhone => do
    let matched : Option Bool ← read a value
    return { as with phone := as.phone.withVendor matched }

/-- The attributes that have a value, with it. -/
def present (as : Attributes) : List (Attribute × Json) :=
  Attribute.all.filterMap fun a => (as.get a).map (a, ·)

/-- Takes a stored value, or leaves the attribute where the value is none of its own. -/
def accept (as : Attributes) (stored : Members Json) (a : Attribute) : Attributes :=
  match Members.find? a.name stored with
  | none => as
  | some j => (as.set a (some j)).toOption.getD as

/-- The order in which stored values are taken: the user's confirmation last, since it counts only
    with the vendor's. -/
def order : List Attribute :=
  Attribute.all.filter (· ≠ .userPhone) ++ [.userPhone]

/-- The attributes among stored values. -/
def ofStored (stored : Members Json) : Attributes :=
  order.foldl (fun as a => as.accept stored a) empty

end Attributes

end Proofing
