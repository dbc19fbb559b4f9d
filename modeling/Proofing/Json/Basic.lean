/-
  Proofing — JSON values.

  * `Json` is the value of a JSON text: whole numbers are kept apart from
    floating-point ones, and an object is the list of its members.
  * `Members` is what an object holds, one value per key, in the order of the
    keys.  `put` and `erase` keep the order; `find?` reads a key.  The laws of
    the three (`find?_put`, `put_put`, `find?_erase`) hold of every list of
    members, ordered or not.
-/
namespace Proofing

/-- A JSON value. -/
inductive Json where
  | null
  | bool (b : Bool)
  | int (n : Int)
  | float (x : Float)
  | str (s : String)
  | arr (items : List Json)
  | obj (members : List (String × Json))
  deriving Inhabited

/-- What an object holds: a value for each of its keys. -/
abbrev Members (α : Type) := List (String × α)

namespace Members

variable {α : Type}

/-- The value under a key. -/
def find? (key : String) : Members α → Option α
  | [] => none
  | (k, v) :: rest => if k = key then some v else find? key rest

/-- Sets the value under a key; a new key goes before the first greater one. -/
def put (key : String) (value : α) : Members α → Members α
  | [] => [(key, value)]
  | (k, v) :: rest =>
    if k = key then (key, value) :: rest
    else if key < k then (key, value) :: (k, v) :: rest
    else (k, v) :: put key value rest

/-- Removes a key. -/
def erase (key : String) (ms : Members α) : Members α :=
  ms.filter fun m => m.1 ≠ key

/-- The members of a list in order, the last one of each key. -/
def ofList (ms : List (String × α)) : Members α :=
  ms.foldl (fun acc m => put m.1 m.2 acc) []

theorem find?_put_self (key : String) (value : α) (ms : Members α) :
    find? key (put key value ms) = some value := by
  induction ms with
  | nil => simp [put, find?]
  | cons m rest ih => unfold put; split <;> (try split) <;> simp_all [find?]

theorem find?_put_of_ne {key other : String} (h : other ≠ key) (value : α) (ms : Members α) :
    find? other (put key value ms) = find? other ms := by
  induction ms with
  | nil => simp [put, find?, Ne.symm h]
  | cons m rest ih =>
    unfold put
    split
    · subst_vars; simp [find?, Ne.symm h]
    · split
      · simp [find?, Ne.symm h]
      · simp [find?, ih]

/-- Reading after a write. -/
theorem find?_put (key other : String) (value : α) (ms : Members α) :
    find? other (put key value ms) = if other = key then some value else find? other ms := by
  split
  · subst_vars; exact find?_put_self _ _ _
  · exact find?_put_of_ne ‹_› _ _

/-- The last write to a key wins. -/
theorem put_put (key : String) (v w : α) (ms : Members α) :
    put key w (put key v ms) = put key w ms := by
  induction ms with
  | nil => simp [put]
  | cons m rest ih =>
    rw [put.eq_2 key v]
    split
    · rw [put.eq_2, put.eq_2]; simp_all
    · split
      · rw [put.eq_2, put.eq_2]; simp_all
      · rename_i hk hlt
        rw [put.eq_2, put.eq_2 key w m.1]
        simp only [if_neg hk, if_neg hlt, ih]

theorem find?_erase (key other : String) (ms : Members α) :
    find? other (erase key ms) = if other = key then none else find? other ms := by
  induction ms with
  | nil => simp [erase, find?]
  | cons m rest ih =>
    simp only [erase] at ih ⊢
    by_cases hm : m.1 = key <;> by_cases ho : other = key <;> simp_all [find?]
    exact fun h => absurd h.symm ho

end Members

namespace Json

/-- The members of an object; of another value, none. -/
def members? : Json → Option (Members Json)
  | obj ms => some ms
  | _ => none

/-- The object that holds these members, whatever their order. -/
def ofMembers (ms : List (String × Json)) : Json :=
  obj (Members.ofList ms)

/-- A value, or `null`. -/
def ofOption {α : Type} (encode : α → Json) : Option α → Json
  | some a => encode a
  | none => null

/-- A natural number. -/
def nat (n : Nat) : Json :=
  int n

end Json

end Proofing
