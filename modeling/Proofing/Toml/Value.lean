import Proofing.Json.Basic
/-
  Proofing — TOML values and tables.

  A table is filled by three kinds of lines, and what a line may do depends on
  how the tables on its path came to be (`Origin`):

  * `add` puts a value under a dotted key: the tables on the way are made as
    needed, and one that a header or a value has made is closed to it;
  * `openTable` makes the table of a header, once; a table that exists only
    because a longer header passed through it counts as not yet made;
  * `openItem` adds an item to the array of tables of a header.

  Headers and dotted keys that lead to an array of tables go on in its last item.
-/
namespace Proofing.Toml

/-- How a table came to be. -/
inductive Origin where
  /-- It was written as a value. -/
  | value
  /-- It has a header of its own, or is an item of an array of tables. -/
  | header
  /-- A longer header passed through it. -/
  | passed
  /-- A dotted key passed through it. -/
  | dotted
  deriving DecidableEq, Repr

/-- A TOML value. -/
inductive Value where
  | str (s : String)
  | int (n : Int)
  | bool (b : Bool)
  /-- A floating-point number, as it is written. -/
  | float (literal : String)
  /-- A date, a time or both, as they are written. -/
  | time (literal : String)
  | arr (items : List Value)
  | table (origin : Origin) (entries : List (String × Value))
  /-- An array of tables. -/
  | tables (items : List (List (String × Value)))
  deriving Inhabited

/-- The values under the keys of a table. -/
abbrev Table := Members Value

namespace Table

/-- A change of the last item. -/
def onLast (change : Table → Option Table) : List Table → Option (List Table)
  | [] => none
  | [t] => (change t).map ([·])
  | t :: u :: rest => (onLast change (u :: rest)).map (t :: ·)

/-- Puts a value under a key that is not taken; the keys of a table that dotted keys have made are
    dotted, and those of another are not. -/
def addKey (origin : Origin) (dotted : Bool) (key : String) (v : Value) (t : Table) :
    Option Table :=
  if (origin == .dotted) != dotted ∨ (Members.find? key t).isSome then none
  else some (Members.put key v t)

/-- Goes on with a dotted key below the first of its parts. -/
def add (key : String) (v : Value) (origin : Origin) (dotted : Bool) :
    List String → Table → Option Table
  | [], t => addKey origin dotted key v t
  | k :: path, t =>
    match Members.find? k t with
    | none => (add key v .dotted true path []).map fun u => Members.put k (.table .dotted u) t
    | some (.table .dotted u) =>
      (add key v .dotted true path u).map fun u => Members.put k (.table .dotted u) t
    | some (.table .passed u) =>
      (add key v .passed true path u).map fun u => Members.put k (.table .passed u) t
    | some (.tables items) =>
      (onLast (add key v .header true path) items).map fun items => Members.put k (.tables items) t
    | some _ => none

/-- Puts a value under a dotted key of a table with a header, of the whole document, or of a table
    that is written as a value. -/
def insert (path : List String) (key : String) (v : Value) (t : Table) : Option Table :=
  add key v .header (!path.isEmpty) path t

/-- A change of the table that a header names; tables on the way are made as needed. -/
def within (change : Table → Option Table) : List String → Table → Option Table
  | [], t => change t
  | k :: path, t =>
    match Members.find? k t with
    | none => (within change path []).map fun u => Members.put k (.table .passed u) t
    | some (.table .value _) => none
    | some (.table origin u) =>
      (within change path u).map fun u => Members.put k (.table origin u) t
    | some (.tables items) =>
      (onLast (within change path) items).map fun items => Members.put k (.tables items) t
    | some _ => none

/-- Makes the table of a header. -/
def openTable (path : List String) (key : String) (t : Table) : Option Table :=
  within (fun u =>
    match Members.find? key u with
    | none => some (Members.put key (.table .header []) u)
    | some (.table .passed w) => some (Members.put key (.table .header w) u)
    | some _ => none) path t

/-- Adds an item to the array of tables of a header. -/
def openItem (path : List String) (key : String) (t : Table) : Option Table :=
  within (fun u =>
    match Members.find? key u with
    | none => some (Members.put key (.tables [[]]) u)
    | some (.tables items) => some (Members.put key (.tables (items ++ [[]])) u)
    | some _ => none) path t

end Table

end Proofing.Toml
