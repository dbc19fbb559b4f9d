import Proofing.Toml.Number
/-
  Proofing — TOML documents.

  A document is a sequence of lines: comments, headers of tables and of items of
  arrays of tables, and keys with values.  Arrays may go over several lines,
  tables that are written as values may not.

  `parse?` gives the table of a document, or none.
-/
namespace Proofing.Toml

/-- How deep arrays and tables may be nested in a value. -/
def maxNesting : Nat := 79

mutual

/-- A value, inside `depth` arrays and tables. -/
def value? (fuel depth : Nat) (cs : List Char) : Option (Value × List Char) :=
  match fuel with
  | 0 => none
  | fuel + 1 =>
    match cs with
    | '[' :: rest =>
      if depth < maxNesting then
        (items? fuel (depth + 1) rest).map fun (vs, rest) => (.arr vs, rest)
      else none
    | '{' :: rest =>
      if depth < maxNesting then
        match skipSpaces rest with
        | '}' :: rest => some (.table .value [], rest)
        | _ => (entries? fuel (depth + 1) [] rest).map fun (t, rest) => (.table .value t, rest)
      else none
    | '"' :: _ | '\'' :: _ => (string? cs).map fun (s, rest) => (.str (String.ofList s), rest)
    | 't' :: 'r' :: 'u' :: 'e' :: rest => some (.bool true, rest)
    | 'f' :: 'a' :: 'l' :: 's' :: 'e' :: rest => some (.bool false, rest)
    | cs => number? cs

/-- The items of an array and its closing bracket; a comma may follow the last item. -/
def items? (fuel depth : Nat) (cs : List Char) : Option (List Value × List Char) :=
  match fuel with
  | 0 => none
  | fuel + 1 =>
    match skipLines (cs.length + 1) cs with
    | ']' :: rest => some ([], rest)
    | cs => do
      let (v, rest) ← value? fuel depth cs
      match skipLines (rest.length + 1) rest with
      | ']' :: rest => return ([v], rest)
      | ',' :: rest => do
        let (vs, rest) ← items? fuel depth rest
        return (v :: vs, rest)
      | _ => none

/-- The entries of a table that is written as a value, and its closing brace. -/
def entries? (fuel depth : Nat) (t : Table) (cs : List Char) : Option (Table × List Char) :=
  match fuel with
  | 0 => none
  | fuel + 1 => do
    let ((path, key), rest) ← key? cs
    match rest with
    | '=' :: rest => do
      let (v, rest) ← value? fuel depth (skipSpaces rest)
      let t ← Table.insert path key v t
      match skipSpaces rest with
      | ',' :: rest => entries? fuel depth t rest
      | '}' :: rest => return (t, rest)
      | _ => none
    | _ => none

end

/-- A key and its value. -/
def entry? (cs : List Char) : Option (((List String × String) × Value) × List Char) := do
  let (key, rest) ← key? cs
  match rest with
  | '=' :: rest => do
    let (v, rest) ← value? (rest.length + 1) 0 (skipSpaces rest)
    return ((key, v), rest)
  | _ => none

/-- A document that is read up to some line. -/
structure Reading where
  root : Table
  /-- The header that keys belong to. -/
  header : List String

namespace Reading

/-- Puts a value under a key below the header. -/
def enter (r : Reading) (path : List String) (key : String) (v : Value) : Option Reading :=
  (Table.within (Table.insert path key v) r.header r.root).map fun root => { r with root }

/-- Goes on under the header of a table. -/
def openTable (r : Reading) (path : List String) (key : String) : Option Reading :=
  (Table.openTable path key r.root).map fun root => ⟨root, path ++ [key]⟩

/-- Goes on under the header of an item of an array of tables. -/
def openItem (r : Reading) (path : List String) (key : String) : Option Reading :=
  (Table.openItem path key r.root).map fun root => ⟨root, path ++ [key]⟩

end Reading

/-- A line with a header or a key, up to its end. -/
def line? (r : Reading) (cs : List Char) : Option (Reading × List Char) :=
  match cs with
  | '[' :: '[' :: rest => do
    let ((path, key), rest) ← key? rest
    match rest with
    | ']' :: ']' :: rest => return (← r.openItem path key, rest)
    | _ => none
  | '[' :: rest => do
    let ((path, key), rest) ← key? rest
    match rest with
    | ']' :: rest => return (← r.openTable path key, rest)
    | _ => none
  | cs => do
    let (((path, key), v), rest) ← entry? cs
    return (← r.enter path key v, rest)

/-- The lines of a document. -/
def lines? : Nat → Reading → List Char → Option Table
  | 0, _, _ => none
  | fuel + 1, r, cs =>
    match skipSpaces cs with
    | [] => some r.root
    | c :: rest =>
      if c = '#' ∨ (newline? (c :: rest)).isSome then
        (lineEnd? (c :: rest)).bind fun rest => lines? fuel r rest
      else do
        let (r, rest) ← line? r (c :: rest)
        lines? fuel r (← lineEnd? rest)

/-- The table of a document; a byte order mark in front of it is passed over. -/
def parse? (text : String) : Option Table :=
  let cs := match text.toList with
    | '\ufeff' :: cs => cs
    | cs => cs
  lines? (cs.length + 1) ⟨[], []⟩ cs

end Proofing.Toml
