import Proofing.Json.Basic
/-
  Proofing — TOML texts of strings.

  A string is written in the first of the four forms that shows it without
  escapes, and with escapes if there is none: between quotation marks, between
  apostrophes, and then between three of either.  The long forms start with a
  line break if there is one in the string.
-/
namespace Proofing.Toml

/-- The longest run of a character. -/
def longestRun (q : Char) (cs : List Char) : Nat :=
  (cs.foldl (fun (run, longest) c =>
    if c = q then (run + 1, max (run + 1) longest) else (0, longest)) ((0, 0) : Nat × Nat)).2

/-- A control character that cannot stand in any string as it is. -/
def isHidden (c : Char) : Bool :=
  (c.toNat < 0x20 && c != '\t' && c != '\n') || c.toNat == 0x7F

/-- An upper-case hexadecimal digit. -/
def upperDigit (n : Nat) : Char :=
  (Nat.digitChar n).toUpper

/-- The escape of a character, if it needs one in a string with escapes. -/
def escape? (c : Char) : Option (List Char) :=
  match c with
  | '\x08' => some ['\\', 'b']
  | '\t' => some ['\\', 't']
  | '\n' => some ['\\', 'n']
  | '\x0c' => some ['\\', 'f']
  | '\r' => some ['\\', 'r']
  | '\\' => some ['\\', '\\']
  | c =>
    if isHidden c then
      some ['\\', 'u', '0', '0', upperDigit (c.toNat / 16), upperDigit (c.toNat % 16)]
    else none

/-- The inside of a string between quotation marks. -/
def basicChars (cs : List Char) : List Char :=
  cs.flatMap fun c => if c = '"' then ['\\', '"'] else (escape? c).getD [c]

/-- The inside of a long string, after `quotes` quotation marks in a row: every third of them is
    escaped, and line feeds stand for themselves. -/
def longBasicChars (quotes : Nat) : List Char → List Char
  | [] => []
  | '"' :: rest =>
    if quotes = 2 then '\\' :: '"' :: longBasicChars 0 rest
    else '"' :: longBasicChars (quotes + 1) rest
  | '\n' :: rest => '\n' :: longBasicChars 0 rest
  | c :: rest => (escape? c).getD [c] ++ longBasicChars 0 rest

/-- A text between three quotes, after a line break if there is one in the string. -/
def long (q : Char) (cs inside : List Char) : List Char :=
  [q, q, q] ++ (if '\n' ∈ cs then ['\n'] else []) ++ inside ++ [q, q, q]

/-- A string. -/
def stringChars (cs : List Char) : List Char :=
  let hidden := cs.any isHidden
  let broken := '\n' ∈ cs
  let backslash := '\\' ∈ cs
  let quotes := longestRun '"' cs
  let apostrophes := longestRun '\'' cs
  if !hidden && !backslash && quotes == 0 && !broken then '"' :: basicChars cs ++ ['"']
  else if !hidden && apostrophes == 0 && !broken then '\'' :: cs ++ ['\'']
  else if !hidden && !backslash && quotes ≤ 2 then long '"' cs (longBasicChars 0 cs)
  else if !hidden && apostrophes ≤ 2 then long '\'' cs cs
  else if broken then long '"' cs (longBasicChars 0 cs)
  else '"' :: basicChars cs ++ ['"']

/-- A key with a string, a truth value or a number, on a line. -/
def line (key : String) (value : List Char) : List Char :=
  key.toList ++ [' ', '=', ' '] ++ value ++ ['\n']

end Proofing.Toml
