import Proofing.Decimal.Layout
import Proofing.Json.Basic
/-
  Proofing — numbers in JSON texts.

  * `Numeral` is a numeral as it is written.  Whole numbers that fit 64 bits
    (signed or unsigned) keep their value; every other numeral is a
    floating-point number (`Numeral.value?`), unless its size is beyond the
    largest one.
  * A floating-point numeral is read from as many leading digits as fit 64
    bits, times or divided by one power of ten; the digits after those count
    only for the place of the point.
-/
namespace Proofing

/-- The value of a numeral. -/
inductive Number where
  | int (n : Int)
  | float (x : Float)

/-- A numeral of a JSON text, digit by digit. -/
structure Numeral where
  negative : Bool
  whole : List Nat
  /-- The digits after the point, if there is one. -/
  fraction : Option (List Nat)
  /-- Whether the exponent is negative, and its digits. -/
  exponent : Option (Bool × List Nat)
  deriving Repr

namespace Numeral

/-- Leading digits while the number they make fits 64 bits, and how many were left out. -/
def leading (significand : Nat) : List Nat → Nat × Nat
  | [] => (significand, 0)
  | d :: rest =>
    let next := significand * 10 + d
    if next < UInt64.size then leading next rest else (significand, rest.length + 1)

/-- `10^k` for `k ≤ 308`, rounded. -/
def powerOfTen (k : Nat) : Float :=
  Float.ofScientific 1 false k

/-- Divides by `10^k`, in steps no greater than the largest power of ten there is. -/
def scaleDown (x : Float) (k : Nat) : Float :=
  if k ≤ 308 then x / powerOfTen k
  else if x == 0 then x
  else scaleDown (x / powerOfTen 308) (k - 308)
termination_by k

/-- `significand · 10^k`; none when that is beyond every floating-point number. -/
def scale (significand : Nat) (k : Int) : Option Float :=
  let x := (UInt64.ofNat significand).toFloat
  if k < 0 then some (scaleDown x k.natAbs)
  else if k ≤ 308 then
    let y := x * powerOfTen k.natAbs
    if y.isInf then none else some y
  else if x == 0 then some x
  else none

/-- Exponents are kept within 32 bits. -/
def clampExponent (k : Int) : Int :=
  max Int32.minValue.toInt (min Int32.maxValue.toInt k)

/-- The exponent written out; none when it needs more than 32 bits. -/
def writtenExponent (digits : List Nat) : Option Nat :=
  digits.foldl (fun acc d =>
    acc.bind fun n => if n * 10 + d < 1 <<< 31 then some (n * 10 + d) else none) (some 0)

/-- The size of a floating-point numeral. -/
def size? (n : Numeral) : Option Float :=
  let (s, dropped) := leading 0 n.whole
  let (s, point) : Nat × Int :=
    match n.fraction with
    | none => (s, dropped)
    | some ds =>
      let (s', left) := leading s ds
      (s', dropped - (ds.length - left : Nat))
  match n.exponent with
  | none => scale s point
  | some (below, ds) =>
    match writtenExponent ds with
    | some k => scale s (clampExponent (if below then point - k else point + k))
    | none => if s ≠ 0 ∧ ¬ below then none else some 0

/-- The value of a numeral; none when its size is beyond every floating-point number. -/
def value? (n : Numeral) : Option Number :=
  match n.fraction, n.exponent, leading 0 n.whole with
  | none, none, (s, 0) =>
    if n.negative then
      if 0 < s ∧ s ≤ 1 <<< 63 then some (.int (-s))
      else some (.float (-(UInt64.ofNat s).toFloat))
    else some (.int s)
  | _, _, _ => n.size?.map fun x => .float (if n.negative then -x else x)

end Numeral

namespace Json

/-- In JSON texts numbers from `10^-5` up to `10^16` have their point in place; the exponent of
    any other number always has its sign. -/
def floatLayout : Decimal.Layout :=
  ⟨-5, 15, "e+", "e-"⟩

end Json

end Proofing
