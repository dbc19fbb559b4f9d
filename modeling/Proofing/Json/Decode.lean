import Proofing.FormatError
import Proofing.Json.Printer
import Proofing.Text.Quoted
/-
  Proofing — reading domain values out of JSON values.

  * `DecodeError` lists the reasons for which a JSON value encodes no value of
    a type, `DecodeError.message` words them;
  * `Decoder` is a reader, with the readers for texts, truth values, numbers,
    lists and optional values;
  * `Coded` gives a type its JSON form: what is written and what is read;
    `Variants` gives one to the types that are a list of names.
-/
namespace Proofing

/-- Why a JSON value encodes no value of a type. -/
inductive DecodeError where
  /-- The value is of another type. -/
  | wrongType (found : Json) (expected : String)
  /-- The value is of the type, but outside its range. -/
  | wrongValue (found : Json) (expected : String)
  /-- A list of fields is too short or too long. -/
  | wrongLength (found : Nat) (expected : String)
  | missingField (name : String)
  | unknownVariant (name : String) (known : List String)
  /-- The name of a variant that needs a value stands without one. -/
  | variantWithoutValue
  /-- An object with other than one member cannot name a variant. -/
  | notOneMember
  | badUuid
  | badText (e : FormatError)
  /-- No way to read the type fits. -/
  | noVariantFits (type : String)

namespace Json

/-- A value as messages name it. -/
def described : Json → String
  | null => "null"
  | bool b => "boolean `" ++ toString b ++ "`"
  | int n => "integer `" ++ toString n ++ "`"
  | float x => "floating point `" ++ String.ofList (floatLayout.write x) ++ "`"
  | str s => "string " ++ Text.quoted s
  | arr _ => "sequence"
  | obj _ => "map"

end Json

/-- Names in backticks: two with "or", more as a list. -/
def alternatives : List String → String
  | [a] => "`" ++ a ++ "`"
  | [a, b] => "`" ++ a ++ "` or `" ++ b ++ "`"
  | names => "one of " ++ ", ".intercalate (names.map fun n => "`" ++ n ++ "`")

/-- The wording of a refusal. -/
def DecodeError.message : DecodeError → String
  | wrongType found expected =>
    "invalid type: " ++ found.described ++ ", expected " ++ expected
  | wrongValue found expected =>
    "invalid value: " ++ found.described ++ ", expected " ++ expected
  | wrongLength found expected =>
    "invalid length " ++ toString found ++ ", expected " ++ expected
  | missingField name => "missing field `" ++ name ++ "`"
  | unknownVariant name known =>
    "unknown variant `" ++ name ++ "`, expected " ++ alternatives known
  | variantWithoutValue => "invalid type: unit variant, expected newtype variant"
  | notOneMember => "invalid value: map, expected map with a single key"
  | badUuid => "UUID parsing failed"
  | badText e => e.message
  | noVariantFits type => "data did not match any variant of untagged enum " ++ type

/-- A reader of JSON values. -/
abbrev Decoder (α : Type) := Json → Except DecodeError α

namespace Decode

variable {α : Type}

/-- A text. -/
def string : Decoder String
  | .str s => .ok s
  | j => .error (.wrongType j "a string")

/-- A truth value. -/
def bool : Decoder Bool
  | .bool b => .ok b
  | j => .error (.wrongType j "a boolean")

/-- A natural number below `bound`, which messages call `name`. -/
def below (bound : Nat) (name : String) : Decoder Nat
  | .int n => if 0 ≤ n ∧ n < bound then .ok n.toNat else .error (.wrongValue (.int n) name)
  | j => .error (.wrongType j name)

/-- An unsigned number of 64 bits. -/
def word64 (j : Json) : Except DecodeError UInt64 :=
  (below UInt64.size "u64" j).map UInt64.ofNat

/-- An unsigned number of 32 bits. -/
def word32 (j : Json) : Except DecodeError UInt32 :=
  (below UInt32.size "u32" j).map UInt32.ofNat

/-- A value, or `null` for none. -/
def option (decode : Decoder α) : Decoder (Option α)
  | .null => .ok none
  | j => (decode j).map some

/-- The values of a list, up to the first that cannot be read. -/
def items (decode : Decoder α) : List Json → Except DecodeError (List α)
  | [] => .ok []
  | j :: rest => do return (← decode j) :: (← items decode rest)

/-- A list. -/
def list (decode : Decoder α) : Decoder (List α)
  | .arr js => items decode js
  | j => .error (.wrongType j "a sequence")

/-- Any object. -/
def object : Decoder (Members Json)
  | .obj ms => .ok ms
  | j => .error (.wrongType j "a map")

/-- A text that has to be well formed. -/
def text (parse : String → Except FormatError α) (j : Json) : Except DecodeError α := do
  match parse (← string j) with
  | .ok a => return a
  | .error e => throw (.badText e)

end Decode

/-- A type whose values stand in JSON. -/
class Coded (α : Type) where
  encode : α → Json
  decode : Decoder α

namespace Coded

variable {α : Type} [Coded α]

instance : Coded String := ⟨.str, Decode.string⟩

instance : Coded Bool := ⟨.bool, Decode.bool⟩

instance : Coded UInt64 := ⟨fun n => .nat n.toNat, Decode.word64⟩

instance : Coded UInt32 := ⟨fun n => .nat n.toNat, Decode.word32⟩

instance : Coded (Members Json) := ⟨.obj, Decode.object⟩

instance : Coded (Option α) := ⟨Json.ofOption encode, Decode.option decode⟩

instance : Coded (List α) := ⟨fun as => .arr (as.map encode), Decode.list decode⟩

end Coded

/-- The names of the values of a type that is a list of names. -/
class Variants (α : Type) where
  /-- Every value with its name, in the order in which messages list them. -/
  all : List (String × α)
  /-- The name of a value. -/
  name : α → String

namespace Variants

variable {α : Type} [Variants α]

/-- The value with a name. -/
def ofName? (name : String) : Option α :=
  Members.find? name all

/-- The names. -/
def names (α : Type) [Variants α] : List String :=
  (all : List (String × α)).map (·.1)

/-- A name, or an object whose only member has that name as key and the value `null`. -/
def decode : Decoder α
  | .str s => named s
  | .obj [(k, v)] => do
    let a ← named k
    match v with
    | .null => return a
    | v => throw (.wrongType v "unit")
  | .obj _ => .error .notOneMember
  | j => .error (.wrongType j "string or map")
where
  named (s : String) : Except DecodeError α :=
    match ofName? s with
    | some a => .ok a
    | none => .error (.unknownVariant s (names α))

instance : Coded α := ⟨fun a => .str (name a), decode⟩

end Variants

end Proofing
