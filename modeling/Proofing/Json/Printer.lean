import Proofing.Json.Basic
import Proofing.Json.Number
/-
  Proofing — JSON texts of values.

  * `quote` writes a string literal: quotes, backslashes and control characters
    are escaped, everything else stands for itself;
  * `compact` writes a value without blanks, `pretty` over several lines with an
    indent of two spaces; members come in the order in which the object holds
    them.
-/
namespace Proofing.Json

/-- A lower-case hexadecimal digit. -/
def hexDigit (n : Nat) : Char :=
  Nat.digitChar n

/-- A character inside a string literal. -/
def escape (c : Char) : List Char :=
  if c = '"' then ['\\', '"']
  else if c = '\\' then ['\\', '\\']
  else if c = '\x08' then ['\\', 'b']
  else if c = '\x0c' then ['\\', 'f']
  else if c = '\n' then ['\\', 'n']
  else if c = '\r' then ['\\', 'r']
  else if c = '\t' then ['\\', 't']
  else if c.toNat < 0x20 then
    ['\\', 'u', '0', '0', hexDigit (c.toNat / 16), hexDigit (c.toNat % 16)]
  else [c]

/-- A string literal. -/
def quote (s : String) : List Char :=
  '"' :: s.toList.flatMap escape ++ ['"']

/-- A number, `true`, `false`, `null` or a string literal; nothing for arrays and objects. -/
def scalar : Json → List Char
  | null => "null".toList
  | bool b => (toString b).toList
  | int n => (toString n).toList
  | float x => floatLayout.write x
  | str s => quote s
  | arr _ | obj _ => []

/-- Pieces with commas between them. -/
def commas : List (List Char) → List Char
  | [] => []
  | [p] => p
  | p :: q :: rest => p ++ ',' :: commas (q :: rest)

mutual

/-- The text of a value without blanks. -/
def chars : Json → List Char
  | arr items => '[' :: commas (charsOfItems items) ++ [']']
  | obj ms => '{' :: commas (charsOfMembers ms) ++ ['}']
  | v => scalar v

def charsOfItems : List Json → List (List Char)
  | [] => []
  | v :: rest => chars v :: charsOfItems rest

def charsOfMembers : List (String × Json) → List (List Char)
  | [] => []
  | (k, v) :: rest => (quote k ++ ':' :: chars v) :: charsOfMembers rest

end

/-- The text of a value without blanks. -/
def compact (j : Json) : String :=
  String.ofList (chars j)

/-- A line break and an indent. -/
def newline (depth : Nat) : List Char :=
  '\n' :: List.replicate (2 * depth) ' '

/-- Pieces on lines of their own between brackets. -/
def block (opening closing : Char) (depth : Nat) (pieces : List (List Char)) : List Char :=
  match pieces with
  | [] => [opening, closing]
  | _ => opening :: commas (pieces.map fun p => newline (depth + 1) ++ p) ++
      newline depth ++ [closing]

mutual

/-- The text of a value over several lines, inside `depth` brackets. -/
def prettyChars (depth : Nat) : Json → List Char
  | arr items => block '[' ']' depth (prettyItems (depth + 1) items)
  | obj ms => block '{' '}' depth (prettyMembers (depth + 1) ms)
  | v => scalar v

def prettyItems (depth : Nat) : List Json → List (List Char)
  | [] => []
  | v :: rest => prettyChars depth v :: prettyItems depth rest

def prettyMembers (depth : Nat) : List (String × Json) → List (List Char)
  | [] => []
  | (k, v) :: rest => (quote k ++ ':' :: ' ' :: prettyChars depth v) :: prettyMembers depth rest

end

/-- The text of a value over several lines. -/
def pretty (j : Json) : String :=
  String.ofList (prettyChars 0 j)

end Proofing.Json
