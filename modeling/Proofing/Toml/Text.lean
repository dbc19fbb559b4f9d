import Proofing.Json.Raw
/-
  Proofing — TOML blanks, keys and strings.

  The readers take characters and give what was read with the rest, or none.  A
  string has four forms: between one or three quotes, with or without escapes.
  Line breaks in the long forms are read as line feeds, one right after the
  opening quotes is dropped, and a backslash at the end of a line drops the blanks
  and line breaks that follow.
-/
namespace Proofing.Toml

/-- What was read and the rest. -/
abbrev Read (α : Type) := Option (α × List Char)

/-- A blank inside a line. -/
def isSpace (c : Char) : Bool :=
  c == ' ' || c == '\t'

/-- Skips blanks inside a line. -/
def skipSpaces (cs : List Char) : List Char :=
  cs.dropWhile isSpace

/-- Skips a line break. -/
def newline? : List Char → Option (List Char)
  | '\n' :: rest => some rest
  | '\r' :: '\n' :: rest => some rest
  | _ => none

/-- A character that may stand in a comment: no control character but the tab. -/
def isCommentChar (c : Char) : Bool :=
  c == '\t' || (0x20 ≤ c.toNat && c.toNat != 0x7F)

/-- Skips a comment, if there is one. -/
def skipComment : List Char → List Char
  | '#' :: rest => rest.dropWhile isCommentChar
  | cs => cs

/-- Skips the end of a line: blanks, a comment, and the line break or the end of the text. -/
def lineEnd? (cs : List Char) : Option (List Char) :=
  match skipComment (skipSpaces cs) with
  | [] => some []
  | rest => newline? rest

/-- Skips blanks, line breaks and comments. -/
def skipLines : Nat → List Char → List Char
  | 0, cs => cs
  | fuel + 1, cs =>
    match skipSpaces cs with
    | '#' :: rest => skipLines fuel (rest.dropWhile isCommentChar)
    | rest =>
      match newline? rest with
      | some rest => skipLines fuel rest
      | none => rest

/-! ## Strings -/

/-- A character that stands for itself in a string with escapes. -/
def isPlain (c : Char) : Bool :=
  isCommentChar c && c != '"' && c != '\\'

/-- A character that stands for itself in a string without escapes. -/
def isLiteral (c : Char) : Bool :=
  isCommentChar c && c != '\''

/-- The character that an escape of one letter stands for. -/
def escaped? : Char → Option Char
  | 'b' => some '\x08'
  | 't' => some '\t'
  | 'n' => some '\n'
  | 'f' => some '\x0c'
  | 'r' => some '\r'
  | '"' => some '"'
  | '\\' => some '\\'
  | _ => none

/-- The value of hexadecimal digits. -/
def hexNumber? (cs : List Char) : Option Nat :=
  cs.foldl (fun acc c => do return 16 * (← acc) + (← Raw.hexValue? (some c))) (some 0)

/-- The character with a code point. -/
def charOf? (n : Nat) : Option Char :=
  if n.isValidChar then some (Char.ofNat n) else none

/-- The character of a code point in hexadecimal digits. -/
def named? (digits : List Char) : Option Char :=
  (hexNumber? digits).bind charOf?

/-- A character before what was read. -/
def prepend (c : Char) (r : Read (List Char)) : Read (List Char) :=
  r.map fun (cs, rest) => (c :: cs, rest)

/-- The rest of a string between quotation marks, with escapes. -/
def basic? : List Char → Read (List Char)
  | '"' :: rest => some ([], rest)
  | '\\' :: 'u' :: a :: b :: c :: d :: rest =>
    (named? [a, b, c, d]).bind fun x => prepend x (basic? rest)
  | '\\' :: 'U' :: a :: b :: c :: d :: e :: f :: g :: h :: rest =>
    (named? [a, b, c, d, e, f, g, h]).bind fun x => prepend x (basic? rest)
  | '\\' :: c :: rest => (escaped? c).bind fun x => prepend x (basic? rest)
  | c :: rest => if isPlain c then prepend c (basic? rest) else none
  | [] => none

/-- The rest of a string between apostrophes. -/
def literal? : List Char → Read (List Char)
  | '\'' :: rest => some ([], rest)
  | c :: rest => if isLiteral c then prepend c (literal? rest) else none
  | [] => none

/-- A backslash here ends the line: only blanks stand before the line break. -/
def endsLine (cs : List Char) : Bool :=
  (newline? (skipSpaces cs)).isSome

/-- The rest of a long string with escapes; up to two quotation marks may stand before the closing
    ones.  After a backslash at the end of a line blanks and line breaks are dropped. -/
def longBasic? (dropping : Bool) : List Char → Read (List Char)
  | '"' :: '"' :: '"' :: '"' :: '"' :: rest => some (['"', '"'], rest)
  | '"' :: '"' :: '"' :: '"' :: rest => some (['"'], rest)
  | '"' :: '"' :: '"' :: rest => some ([], rest)
  | '"' :: rest => prepend '"' (longBasic? false rest)
  | '\\' :: rest =>
    if endsLine rest then longBasic? true rest
    else
      match rest with
      | 'u' :: a :: b :: c :: d :: rest =>
        (named? [a, b, c, d]).bind fun x => prepend x (longBasic? false rest)
      | 'U' :: a :: b :: c :: d :: e :: f :: g :: h :: rest =>
        (named? [a, b, c, d, e, f, g, h]).bind fun x => prepend x (longBasic? false rest)
      | c :: rest => (escaped? c).bind fun x => prepend x (longBasic? false rest)
      | [] => none
  | '\n' :: rest => if dropping then longBasic? true rest else prepend '\n' (longBasic? false rest)
  | '\r' :: '\n' :: rest =>
    if dropping then longBasic? true rest else prepend '\n' (longBasic? false rest)
  | c :: rest =>
    if dropping && isSpace c then longBasic? true rest
    else if isPlain c then prepend c (longBasic? false rest)
    else none
  | [] => none

/-- The rest of a long string without escapes; up to two apostrophes may stand before the closing
    ones. -/
def longLiteral? : List Char → Read (List Char)
  | '\'' :: '\'' :: '\'' :: '\'' :: '\'' :: rest => some (['\'', '\''], rest)
  | '\'' :: '\'' :: '\'' :: '\'' :: rest => some (['\''], rest)
  | '\'' :: '\'' :: '\'' :: rest => some ([], rest)
  | '\'' :: rest => prepend '\'' (longLiteral? rest)
  | '\n' :: rest => prepend '\n' (longLiteral? rest)
  | '\r' :: '\n' :: rest => prepend '\n' (longLiteral? rest)
  | c :: rest => if isLiteral c then prepend c (longLiteral? rest) else none
  | [] => none

/-- What follows the opening quotes of a long string, without a line break there. -/
def afterBreak (cs : List Char) : List Char :=
  (newline? cs).getD cs

/-- A string in any of the four forms. -/
def string? : List Char → Read (List Char)
  | '"' :: '"' :: '"' :: rest => longBasic? false (afterBreak rest)
  | '"' :: rest => basic? rest
  | '\'' :: '\'' :: '\'' :: rest => longLiteral? (afterBreak rest)
  | '\'' :: rest => literal? rest
  | _ => none

/-! ## Keys -/

/-- A character of a key without quotes. -/
def isKeyChar (c : Char) : Bool :=
  c.isAlphanum || c == '-' || c == '_'

/-- One part of a key. -/
def part? : List Char → Read String
  | '"' :: rest => (basic? rest).map fun (cs, rest) => (String.ofList cs, rest)
  | '\'' :: rest => (literal? rest).map fun (cs, rest) => (String.ofList cs, rest)
  | cs =>
    match cs.span isKeyChar with
    | ([], _) => none
    | (name, rest) => some (String.ofList name, rest)

/-- The parts of a dotted key, with the blanks around it. -/
def parts? : Nat → List Char → Option (List String × List Char)
  | 0, _ => none
  | fuel + 1, cs => do
    let (name, rest) ← part? (skipSpaces cs)
    match skipSpaces rest with
    | '.' :: rest => do
      let (more, rest) ← parts? fuel rest
      return (name :: more, rest)
    | rest => return ([name], rest)

/-- The most parts that a key may have. -/
def maxParts : Nat := 79

/-- A key: the parts before the last one, and the last one. -/
def key? (cs : List Char) : Option ((List String × String) × List Char) := do
  let (names, rest) ← parts? (cs.length + 1) cs
  if maxParts < names.length then none
  else return ((names.dropLast, ← names.getLast?), rest)

end Proofing.Toml
