import Proofing.Decimal.Shortest
/-
  Proofing — how floating-point numbers are written.

  A `Layout` says between which powers of ten a number is written with its
  point in place, and how the exponent of any other number looks.  `Layout.write`
  is the printer for all of them.
-/
namespace Proofing.Decimal

/-- How a floating-point number is written. -/
structure Layout where
  /-- The least power of ten of the leading digit that is written in place. -/
  leastInPlace : Int
  /-- The greatest power of ten of the leading digit that is written in place. -/
  greatestInPlace : Int
  /-- The mark of the exponent, with the sign of a positive one. -/
  positiveMark : String
  /-- The mark of a negative exponent. -/
  negativeMark : String

/-- `digits · 10^exponent` for a nonzero digit string. -/
def Layout.writeDigits (l : Layout) (digits : List Char) (exponent : Int) : List Char :=
  let leading := exponent + digits.length - 1
  if l.leastInPlace ≤ leading ∧ leading ≤ l.greatestInPlace then
    if leading < 0 then
      ['0', '.'] ++ List.replicate (-leading - 1).toNat '0' ++ digits
    else if 0 ≤ exponent then
      digits ++ List.replicate exponent.toNat '0' ++ ['.', '0']
    else
      digits.take (leading.toNat + 1) ++ '.' :: digits.drop (leading.toNat + 1)
  else
    let rest := digits.drop 1
    digits.take 1 ++ (if rest.isEmpty then [] else '.' :: rest) ++
      (if leading < 0 then l.negativeMark.toList else l.positiveMark.toList) ++
      Nat.toDigits 10 leading.natAbs

/-- A finite number in its layout, with the fewest digits that read back. -/
def Layout.write (l : Layout) (x : Float) : List Char :=
  let negative := x.toBits.toNat >>> 63 == 1
  let sign := if negative then ['-'] else []
  let size := if negative then -x else x
  if size.toBits == 0 then sign ++ ['0', '.', '0']
  else
    let s := shortest size
    sign ++ l.writeDigits (Nat.toDigits 10 s.digits) s.exponent

end Proofing.Decimal
