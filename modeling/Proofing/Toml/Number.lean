import Proofing.Toml.Text
import Proofing.Toml.Value
/-
  Proofing — TOML numbers, dates and times.

  The readers say which texts are numbers, dates and times.  Underscores may
  stand between the digits of a number.  Whole numbers have 64 bits; a
  floating-point number must not be too large, whereas one that is too small is
  read all the same.
-/
namespace Proofing.Toml

/-- The digits of a run in which single underscores may stand between digits. -/
def spaced? (isDigit : Char → Bool) (cs : List Char) : Read (List Char) :=
  let (run, rest) := cs.span fun c => isDigit c || c == '_'
  if run.isEmpty || run.head? == some '_' || run.getLast? == some '_' ||
      hasDouble run then none
  else some (run.filter (· != '_'), rest)
where
  hasDouble : List Char → Bool
    | '_' :: '_' :: _ => true
    | _ :: rest => hasDouble rest
    | [] => false

/-- A sign: whether it is a minus sign, and the rest. -/
def sign : List Char → Option Bool × List Char
  | '+' :: rest => (some false, rest)
  | '-' :: rest => (some true, rest)
  | cs => (none, cs)

/-- The number that digits make in a base. -/
def ofDigits (base : Nat) (ds : List Char) : Nat :=
  ds.foldl (fun acc c => base * acc + (Raw.hexValue? (some c)).getD 0) 0

/-- Decimal digits without a needless zero in front. -/
def decimal? (cs : List Char) : Option (List Char × List Char) := do
  let (ds, rest) ← spaced? Char.isDigit cs
  if 1 < ds.length ∧ ds.head? = some '0' then none else return (ds, rest)

/-- The exponent of a number, if there is one. -/
def exponent? (cs : List Char) : Option (Option Int × List Char) :=
  match cs with
  | 'e' :: rest | 'E' :: rest => do
    let (minus, rest) := sign rest
    let (ds, rest) ← spaced? Char.isDigit rest
    let n : Int := ofDigits 10 ds
    return (some (if minus = some true then -n else n), rest)
  | cs => some (none, cs)

/-- The fraction of a number, if there is one. -/
def fraction? (cs : List Char) : Option (Option (List Char) × List Char) :=
  match cs with
  | '.' :: rest => do
    let (ds, rest) ← spaced? Char.isDigit rest
    return (some ds, rest)
  | cs => some (none, cs)

/-- The least number that is too large: half way between the largest number of 53 binary digits
    and what would come next. -/
def tooLarge : Nat := (1 <<< 1024) - (1 <<< 970)

/-- A number of `significand` times a power of ten is too large. -/
def overflows (significand : Nat) (exponent : Int) : Bool :=
  let size : Int := (toString significand).length + exponent
  if significand = 0 ∨ size < 300 then false
  else if 400 < size then true
  else if 0 ≤ exponent then tooLarge ≤ significand * Nat.pow 10 exponent.toNat
  else tooLarge * Nat.pow 10 (-exponent).toNat ≤ significand

/-- A whole number, if it fits into 64 bits. -/
def whole? (n : Int) : Option Value :=
  if Int64.minValue.toInt ≤ n ∧ n ≤ Int64.maxValue.toInt then some (.int n) else none

/-- A whole number in another base than ten. -/
def based? (base : Nat) (isDigit : Char → Bool) (cs : List Char) : Option (Value × List Char) := do
  let (ds, rest) ← spaced? isDigit cs
  return (← whole? (ofDigits base ds), rest)

/-- A hexadecimal digit. -/
def isHexDigit (c : Char) : Bool :=
  (Raw.hexValue? (some c)).isSome

/-- A decimal number. -/
def decimalNumber? (cs : List Char) : Option (Value × List Char) := do
  let (minus, body) := sign cs
  match body with
  | 'i' :: 'n' :: 'f' :: rest => return (.float "inf", rest)
  | 'n' :: 'a' :: 'n' :: rest => return (.float "nan", rest)
  | _ =>
    let (ds, rest) ← decimal? body
    let (fraction, rest) ← fraction? rest
    let (exponent, rest) ← exponent? rest
    let negative := minus = some true
    if fraction.isNone ∧ exponent.isNone then
      let n : Int := ofDigits 10 ds
      return (← whole? (if negative then -n else n), rest)
    else
      let digits := fraction.getD []
      let significand := ofDigits 10 (ds ++ digits)
      if !negative && overflows significand (exponent.getD 0 - digits.length) then none
      else return (.float (String.ofList (cs.take (cs.length - rest.length))), rest)

/-! ## Dates and times -/

/-- The number of two digits within a range. -/
def two? (low high : Nat) : List Char → Read Nat
  | a :: b :: rest =>
    let n := ofDigits 10 [a, b]
    if a.isDigit && b.isDigit && low ≤ n && n ≤ high then some (n, rest) else none
  | _ => none

/-- Skips a character. -/
def skip? (c : Char) : List Char → Option (List Char)
  | d :: rest => if d = c then some rest else none
  | [] => none

/-- The days of a month. -/
def daysIn (year month : Nat) : Nat :=
  if month = 2 then
    if year % 4 = 0 ∧ (year % 100 ≠ 0 ∨ year % 400 = 0) then 29 else 28
  else if month = 4 ∨ month = 6 ∨ month = 9 ∨ month = 11 then 30
  else 31

/-- Skips month and day, after the year and a hyphen. -/
def monthAndDay? (year : Nat) (cs : List Char) : Option (List Char) := do
  let (month, cs) ← two? 1 12 cs
  let cs ← skip? '-' cs
  let (_, cs) ← two? 1 (daysIn year month) cs
  return cs

/-- Skips a time of the day, with any fraction of its seconds. -/
def clock? (cs : List Char) : Option (List Char) := do
  let (_, cs) ← two? 0 23 cs
  let cs ← skip? ':' cs
  let (_, cs) ← two? 0 59 cs
  let cs ← skip? ':' cs
  let (_, cs) ← two? 0 60 cs
  match cs with
  | '.' :: d :: rest => if d.isDigit then return rest.dropWhile Char.isDigit else none
  | cs => return cs

/-- Skips the distance from universal time, if there is one. -/
def offset? (cs : List Char) : Option (List Char) :=
  match cs with
  | 'Z' :: rest | 'z' :: rest => some rest
  | '+' :: rest | '-' :: rest => do
    let (_, cs) ← two? 0 23 rest
    let cs ← skip? ':' cs
    let (_, cs) ← two? 0 59 cs
    return cs
  | cs => some cs

/-- Skips what follows a date: a time after a `T` or a blank, if there is one. -/
def timeOfDate? (cs : List Char) : Option (List Char) :=
  match cs with
  | 'T' :: rest | 't' :: rest => do offset? (← clock? rest)
  | ' ' :: d :: rest => if d.isDigit then do offset? (← clock? (d :: rest)) else some cs
  | cs => some cs

/-- A number, a date or a time. -/
def number? (cs : List Char) : Option (Value × List Char) := do
  let time (rest : List Char) : Value × List Char :=
    (.time (String.ofList (cs.take (cs.length - rest.length))), rest)
  match cs with
  | '0' :: 'x' :: rest => based? 16 isHexDigit rest
  | '0' :: 'o' :: rest => based? 8 (fun c => '0' ≤ c && c ≤ '7') rest
  | '0' :: 'b' :: rest => based? 2 (fun c => c == '0' || c == '1') rest
  | a :: b :: ':' :: _ => if a.isDigit && b.isDigit then return time (← clock? cs) else none
  | a :: b :: c :: d :: '-' :: rest =>
    if [a, b, c, d].all Char.isDigit then
      return time (← timeOfDate? (← monthAndDay? (ofDigits 10 [a, b, c, d]) rest))
    else decimalNumber? cs
  | cs => decimalNumber? cs

end Proofing.Toml
