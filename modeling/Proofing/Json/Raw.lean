import Proofing.Text.Octets
import Proofing.Json.Basic
import Proofing.Json.Number
/-
  Proofing — JSON texts as they are written.

  A `Raw` value is the tree of a JSON text before anything is asked of its
  contents: members keep their order and may repeat, and a scalar without a
  value (half of a surrogate pair, an octet outside UTF-8, a number beyond the
  largest one) is only marked as such.  A reader that skips a part of the tree
  never looks at those marks; `Raw.toJson?` takes the whole value and refuses
  them, and brackets more than 127 deep with them.

  * `Raw.parse?` reads a text;
  * `Json.parse?` reads a text as a value.
-/
namespace Proofing

open Text (Source)

/-- The tree of a JSON text. -/
inductive Raw where
  | null
  | bool (b : Bool)
  | number (n : Option Number)
  | str (s : Option String)
  | arr (items : List Raw)
  | obj (members : List (Option String × Raw))
  deriving Inhabited

namespace Raw

/-! ## String literals -/

/-- A piece of a string literal: what stands there, or the unit that an escape names. -/
inductive Piece where
  | plain (c : Option Char)
  | unit (n : Nat)

/-- The value of a hexadecimal digit. -/
def hexValue? (c : Option Char) : Option Nat :=
  c.bind fun c =>
    if '0' ≤ c ∧ c ≤ '9' then some (c.toNat - '0'.toNat)
    else if 'a' ≤ c ∧ c ≤ 'f' then some (c.toNat - 'a'.toNat + 10)
    else if 'A' ≤ c ∧ c ≤ 'F' then some (c.toNat - 'A'.toNat + 10)
    else none

/-- The unit that four hexadecimal digits name. -/
def unit? (a b c d : Option Char) : Option Nat := do
  let a ← hexValue? a
  let b ← hexValue? b
  let c ← hexValue? c
  let d ← hexValue? d
  return ((a * 16 + b) * 16 + c) * 16 + d

/-- The character that a one-letter escape names. -/
def escaped? : Char → Option Char
  | '"' => some '"'
  | '\\' => some '\\'
  | '/' => some '/'
  | 'b' => some '\x08'
  | 'f' => some '\x0c'
  | 'n' => some '\n'
  | 'r' => some '\r'
  | 't' => some '\t'
  | _ => none

/-- A string literal after its opening quote, up to the closing one. -/
def literal? : Source → Option (List Piece × Source)
  | [] => none
  | some '"' :: rest => some ([], rest)
  | some '\\' :: some 'u' :: a :: b :: c :: d :: rest =>
    match unit? a b c d with
    | some n => (literal? rest).map fun p => (.unit n :: p.1, p.2)
    | none => none
  | some '\\' :: some e :: rest =>
    match escaped? e with
    | some c => (literal? rest).map fun p => (.plain (some c) :: p.1, p.2)
    | none => none
  | some '\\' :: _ => none
  | c :: rest =>
    if c.any (·.toNat < 0x20) then none
    else (literal? rest).map fun p => (.plain c :: p.1, p.2)

/-- The characters of a string literal; none for an undecodable octet and for a surrogate
    without its other half. -/
def characters? : List Piece → Option (List Char)
  | [] => some []
  | .plain c :: rest => do return (← c) :: (← characters? rest)
  | .unit n :: rest =>
    if n < 0xD800 ∨ 0xDFFF < n then
      (characters? rest).map (Char.ofNat n :: ·)
    else match rest with
      | .unit m :: rest' =>
        if n ≤ 0xDBFF ∧ 0xDC00 ≤ m ∧ m ≤ 0xDFFF then
          (characters? rest').map
            (Char.ofNat (0x10000 + (n - 0xD800) * 0x400 + (m - 0xDC00)) :: ·)
        else none
      | _ => none

/-- The text of a string literal. -/
def content? (ps : List Piece) : Option String :=
  (characters? ps).map String.ofList

/-! ## Numerals -/

/-- The value of a decimal digit. -/
def digit? (c : Option Char) : Option Nat :=
  c.bind fun c => if '0' ≤ c ∧ c ≤ '9' then some (c.toNat - '0'.toNat) else none

/-- The decimal digits in front. -/
def digits : Source → List Nat × Source
  | [] => ([], [])
  | c :: rest =>
    match digit? c with
    | some d => ((d :: (digits rest).1), (digits rest).2)
    | none => ([], c :: rest)

/-- At least one decimal digit. -/
def digits? (src : Source) : Option (List Nat × Source) :=
  match digits src with
  | ([], _) => none
  | p => some p

/-- The part after a point, if there is one. -/
def fraction? : Source → Option (Option (List Nat) × Source)
  | some '.' :: rest => (digits? rest).map fun p => (some p.1, p.2)
  | src => some (none, src)

/-- The sign and the digits of an exponent. -/
def signed? : Source → Option ((Bool × List Nat) × Source)
  | some '+' :: rest => (digits? rest).map fun p => ((false, p.1), p.2)
  | some '-' :: rest => (digits? rest).map fun p => ((true, p.1), p.2)
  | src => (digits? src).map fun p => ((false, p.1), p.2)

/-- The exponent, if there is one. -/
def exponent? : Source → Option (Option (Bool × List Nat) × Source)
  | some 'e' :: rest | some 'E' :: rest => (signed? rest).map fun p => (some p.1, p.2)
  | src => some (none, src)

/-- A numeral: no zero in front of other digits, digits on both sides of a point. -/
def numeral? (src : Source) : Option (Numeral × Source) := do
  let (negative, src) := match src with
    | some '-' :: rest => (true, rest)
    | _ => (false, src)
  let (whole, src) ← digits? src
  if whole.head? = some 0 ∧ whole.length ≠ 1 then none
  let (fraction, src) ← fraction? src
  let (exponent, src) ← exponent? src
  return (⟨negative, whole, fraction, exponent⟩, src)

/-! ## Values -/

/-- The text without the blanks in front. -/
def skipBlanks : Source → Source
  | some ' ' :: rest | some '\n' :: rest | some '\t' :: rest | some '\r' :: rest => skipBlanks rest
  | src => src

/-- The text after a word that it starts with. -/
def word? : List Char → Source → Option Source
  | [], src => some src
  | c :: cs, some d :: rest => if c = d then word? cs rest else none
  | _ :: _, _ => none

/-- A word, a numeral or a string literal. -/
def scalar? (src : Source) : Option (Raw × Source) :=
  match src with
  | some 'n' :: rest => (word? "ull".toList rest).map (null, ·)
  | some 't' :: rest => (word? "rue".toList rest).map (bool true, ·)
  | some 'f' :: rest => (word? "alse".toList rest).map (bool false, ·)
  | some '"' :: rest => (literal? rest).map fun p => (str (content? p.1), p.2)
  | _ => (numeral? src).map fun p => (number p.1.value?, p.2)

/-- A key and its colon, up to the value. -/
def key? (src : Source) : Option (Option String × Source) :=
  match skipBlanks src with
  | some '"' :: rest =>
    match literal? rest with
    | some (ps, rest) =>
      match skipBlanks rest with
      | some ':' :: rest => some (content? ps, rest)
      | _ => none
    | none => none
  | _ => none

mutual

/-- A value, blanks in front of it skipped. -/
def value? : Nat → Source → Option (Raw × Source)
  | 0, _ => none
  | fuel + 1, src =>
    match skipBlanks src with
    | some '[' :: rest =>
      match skipBlanks rest with
      | some ']' :: rest => some (arr [], rest)
      | rest => (items? fuel rest).map fun p => (arr p.1, p.2)
    | some '{' :: rest =>
      match skipBlanks rest with
      | some '}' :: rest => some (obj [], rest)
      | rest => (members? fuel rest).map fun p => (obj p.1, p.2)
    | src => scalar? src

/-- Items with commas between them, up to the closing bracket. -/
def items? : Nat → Source → Option (List Raw × Source)
  | 0, _ => none
  | fuel + 1, src =>
    match value? fuel src with
    | none => none
    | some (v, rest) =>
      match skipBlanks rest with
      | some ']' :: rest => some ([v], rest)
      | some ',' :: rest => (items? fuel rest).map fun p => (v :: p.1, p.2)
      | _ => none

/-- Members with commas between them, up to the closing brace. -/
def members? : Nat → Source → Option (List (Option String × Raw) × Source)
  | 0, _ => none
  | fuel + 1, src =>
    match key? src with
    | none => none
    | some (k, rest) =>
      match value? fuel rest with
      | none => none
      | some (v, rest) =>
        match skipBlanks rest with
        | some '}' :: rest => some ([(k, v)], rest)
        | some ',' :: rest => (members? fuel rest).map fun p => ((k, v) :: p.1, p.2)
        | _ => none

end

/-- The tree of a text that is one value and blanks.  Of two nested calls at least one takes a
    character, so twice the length is enough. -/
def parse? (src : Source) : Option Raw :=
  match value? (2 * src.length + 2) src with
  | some (v, rest) => if (skipBlanks rest).isEmpty then some v else none
  | none => none

/-! ## Taking the value -/

mutual

/-- The value of a tree with at most `depth` brackets inside each other; repeated keys keep the
    last value. -/
def toJson? (depth : Nat) : Raw → Option Json
  | null => some .null
  | bool b => some (.bool b)
  | number (some (.int n)) => some (.int n)
  | number (some (.float x)) => some (.float x)
  | number none => none
  | str s => s.map .str
  | arr items => if depth = 0 then none else (itemsToJson? (depth - 1) items).map .arr
  | obj ms =>
    if depth = 0 then none else (membersToJson? (depth - 1) ms).map (.obj <| Members.ofList ·)

def itemsToJson? (depth : Nat) : List Raw → Option (List Json)
  | [] => some []
  | v :: rest => do return (← toJson? depth v) :: (← itemsToJson? depth rest)

def membersToJson? (depth : Nat) : List (Option String × Raw) → Option (List (String × Json))
  | [] => some []
  | (k, v) :: rest => do
    return (← k, ← toJson? depth v) :: (← membersToJson? depth rest)

end

/-- The deepest nesting of brackets that a value may have. -/
def maxDepth : Nat := 127

end Raw

/-- The value of a JSON text. -/
def Json.parse? (text : String) : Option Json :=
  (Raw.parse? (Source.ofString text)).bind (Raw.toJson? Raw.maxDepth)

end Proofing
