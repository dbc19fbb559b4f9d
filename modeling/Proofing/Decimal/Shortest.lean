/-
  Proofing — the shortest decimal that reads back as a given floating-point number.

  A positive finite number is `m · 2^q`; the decimals that round to it fill the
  interval between the midpoints to its neighbours, ends included when `m` is
  even.  `shortest` tries 1, 2, … 17 digits: on each grid only the two points
  around the number can lie in the interval, and the nearer of them wins.
-/
namespace Proofing.Decimal

/-- `digits · 10^exponent`, with no more digits than are needed. -/
structure Scientific where
  digits : Nat
  exponent : Int
  deriving DecidableEq, Repr

/-- `m · 2^q`, and whether the neighbour below is only half as far as the one above. -/
structure Binary where
  mantissa : Nat
  exponent : Int
  tightBelow : Bool
  deriving DecidableEq, Repr

/-- The parts of a positive finite number, read off its bits. -/
def Binary.ofFloat (x : Float) : Binary :=
  let bits : Nat := x.toBits.toNat
  let fraction : Nat := bits % (1 <<< 52)
  let power : Nat := (bits >>> 52) % (1 <<< 11)
  if power = 0 then ⟨fraction, -1074, false⟩
  else ⟨(1 <<< 52) + fraction, power - 1075, fraction == 0 && power != 1⟩

/-- `a · 10^k` against the fraction `n / d`, both sides made whole. -/
def compareScaled (a : Nat) (k : Int) (n d : Nat) : Ordering :=
  if k < 0 then compare (a * d) (n * Nat.pow 10 k.natAbs)
  else compare (a * Nat.pow 10 k.natAbs * d) n

/-- The point `a · 10^k` rounds to `b`. -/
def Binary.accepts (b : Binary) (a : Nat) (k : Int) : Bool :=
  let up := Nat.pow 2 b.exponent.toNat
  let d := 4 * Nat.pow 2 (-b.exponent).toNat
  let below := (4 * b.mantissa - (if b.tightBelow then 1 else 2)) * up
  let above := (4 * b.mantissa + 2) * up
  let even := b.mantissa % 2 == 0
  (match compareScaled a k below d with
    | .gt => true
    | .eq => even
    | .lt => false) &&
  (match compareScaled a k above d with
    | .lt => true
    | .eq => even
    | .gt => false)

/-- The number of decimal digits before the point, zero or negative for small numbers: the `e`
    with `10^(e-1) ≤ m · 2^q < 10^e`.  Shifted by 400 places every number is at least one. -/
def Binary.magnitude (b : Binary) : Int :=
  let n := b.mantissa * Nat.pow 2 b.exponent.toNat * Nat.pow 10 400 / Nat.pow 2 (-b.exponent).toNat
  (Nat.toDigits 10 n).length - 400

/-- The grid points with spacing `10^k` next to the number, the nearer one first; half way between
    them, the even one. -/
def Binary.neighbours (b : Binary) (k : Int) : List Nat :=
  let n := b.mantissa * Nat.pow 2 b.exponent.toNat * Nat.pow 10 (-k).toNat
  let d := Nat.pow 2 (-b.exponent).toNat * Nat.pow 10 k.toNat
  let low := n / d
  let twice := 2 * (n % d)
  if twice < d ∨ (twice = d ∧ low % 2 = 0) then [low, low + 1] else [low + 1, low]

/-- A point of a grid; the next power of ten is written with one digit. -/
def Scientific.ofPoint (a : Nat) (k : Int) : Scientific :=
  if a % 10 = 0 then ⟨a / 10, k + 1⟩ else ⟨a, k⟩

/-- Searches the grids of `digits`, `digits + 1`, … digits. -/
def Binary.search (b : Binary) (digits : Nat) : Nat → Scientific
  | 0 => ⟨b.mantissa, 0⟩
  | fuel + 1 =>
    let k := b.magnitude - digits
    match (b.neighbours k).find? (b.accepts · k) with
    | some a => .ofPoint a k
    | none => b.search (digits + 1) fuel

/-- The shortest decimal that rounds to a positive finite number. -/
def shortest (x : Float) : Scientific :=
  (Binary.ofFloat x).search 1 17

end Proofing.Decimal
