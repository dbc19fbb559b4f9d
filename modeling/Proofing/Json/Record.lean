import Proofing.Json.Decode
/-
  Proofing — records in JSON.

  A record is an object with a member for each of its fields, or the list of its
  fields in the order of their declaration.

  * In an object unknown members are passed over; the values are read in the
    order of the members, so the first refusal is the one reported; then a field
    that is missing is reported, in the order of declaration.
  * In a list the fields are read from the left; a list that ends before a field
    without a default, or goes on after the last field, has the wrong length.

  A `Record` says which fields there are and how they make the value; it is put
  together field by field with `<$>` and `<*>`.
-/
namespace Proofing

/-- When a field may be absent. -/
inductive Presence where
  /-- Never. -/
  | required
  /-- From an object, not from a list. -/
  | optional
  /-- From an object, and from the end of a list. -/
  | defaulted
  deriving DecidableEq

/-- A field of a record. -/
structure Field where
  name : String
  presence : Presence
  /-- Refuses the values that the field cannot hold. -/
  check : Json → Except DecodeError Unit

/-- The fields of a record and how its value is made from their values. -/
structure Record (α : Type) where
  fields : List Field
  build : Members Json → Except DecodeError α

namespace Record

variable {α β : Type}

/-- A field with its presence, and what it is when it is absent. -/
def ofField [Coded α] (name : String) (presence : Presence) (absent : Except DecodeError α) :
    Record α where
  fields := [⟨name, presence, fun j => ((Coded.decode j : Except DecodeError α)).map fun _ => ()⟩]
  build ms :=
    match Members.find? name ms with
    | some j => Coded.decode j
    | none => absent

/-- A field that has to be there. -/
def field [Coded α] (name : String) : Record α :=
  ofField name .required (.error (.missingField name))

/-- A field whose value may be none: absent from an object, or `null`. -/
def optional [Coded α] (name : String) : Record (Option α) :=
  ofField name .optional (.ok none)

/-- A field with a default. -/
def defaulted [Coded α] (name : String) (value : α) : Record α :=
  ofField name .defaulted (.ok value)

instance : Functor Record where
  map f r := ⟨r.fields, fun ms => (r.build ms).map f⟩

instance : Seq Record where
  seq f r := ⟨f.fields ++ (r ()).fields, fun ms => do return (← f.build ms) (← (r ()).build ms)⟩

/-- The field with a name. -/
def find? (fields : List Field) (name : String) : Option Field :=
  List.find? (·.name == name) fields

/-- Reads the values of the fields among some members, in the order of the members. -/
def checkMembers (fields : List Field) : Members Json → Except DecodeError Unit
  | [] => .ok ()
  | (k, j) :: rest => do
    if let some f := find? fields k then f.check j
    checkMembers fields rest

/-- Reports the first field that an object has to have and lacks. -/
def checkMissing (ms : Members Json) : List Field → Except DecodeError Unit
  | [] => .ok ()
  | f :: rest =>
    if f.presence = .required ∧ Members.find? f.name ms = none then .error (.missingField f.name)
    else checkMissing ms rest

/-- How messages describe a record of a type by the number of its fields. -/
def described (type : String) (fields : List Field) : String :=
  "struct " ++ type ++ " with " ++ toString fields.length ++
    (if fields.length = 1 then " element" else " elements")

/-- Pairs fields with the items of a list from the left, and reads each. -/
def pair (type : String) (all : List Field) (seen : Nat) :
    List Field → List Json → Except DecodeError (Members Json)
  | [], [] => .ok []
  | [], rest => .error (.wrongLength (seen + rest.length) "fewer elements in array")
  | f :: fields, [] =>
    if f.presence = .defaulted then pair type all seen fields []
    else .error (.wrongLength seen (described type all))
  | f :: fields, j :: rest => do
    f.check j
    return (f.name, j) :: (← pair type all (seen + 1) fields rest)

/-- Reads a record of a type. -/
def decode (type : String) (r : Record α) : Decoder α
  | .obj ms => do
    checkMembers r.fields ms
    checkMissing ms r.fields
    r.build ms
  | .arr items => do r.build (← pair type r.fields 0 r.fields items)
  | j => .error (.wrongType j ("struct " ++ type))

end Record

end Proofing
