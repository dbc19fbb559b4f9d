import Proofing.Json.Raw
import Proofing.Json.Record
/-
  Proofing — reading a record straight from a JSON text.

  Only the values of the fields are taken: whatever stands under other keys is
  passed over, even where it has no value.  A field may stand only once.
-/
namespace Proofing.Raw

/-- The values of the named fields among some members. -/
def fields? (names : List String) : List (Option String × Raw) → Option (Members Json)
  | [] => some []
  | (none, _) :: _ => none
  | (some k, v) :: rest =>
    if k ∈ names then do
      let j ← toJson? (maxDepth - 1) v
      let more ← fields? names rest
      if more.any (·.1 == k) then none else some ((k, j) :: more)
    else fields? names rest

/-- The record in a tree. -/
def record? {α : Type} (type : String) (r : Record α) : Raw → Option α
  | obj ms => do
    let values ← fields? (r.fields.map (·.name)) ms
    (r.decode type (.obj values)).toOption
  | raw => do
    let j ← toJson? maxDepth raw
    (r.decode type j).toOption

end Proofing.Raw
