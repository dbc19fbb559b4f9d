/-
  Proofing — the block cipher AES with keys of 256 bits, in the direction of
  encryption.

  A block is a square of sixteen octets, column by column.  A round substitutes
  every octet, turns the rows, mixes the columns and adds a round key.  The
  substitution is the inverse in the field of 256 elements followed by an affine
  map, and is tabulated from that definition (`substitution`).
-/
namespace Proofing.Crypto.Aes

/-! ## The field -/

/-- Multiplication by `x` modulo `x^8 + x^4 + x^3 + x + 1`. -/
def double (a : UInt8) : UInt8 :=
  if a &&& 0x80 = 0 then a <<< 1 else a <<< 1 ^^^ 0x1B

/-- Multiplication of field elements, one bit of the second factor after the other. -/
def multiply (a b : UInt8) : UInt8 :=
  ((List.range 8).foldl
    (fun (sum, power) i => (if b.toNat.testBit i then sum ^^^ power else sum, double power))
    ((0, a) : UInt8 × UInt8)).1

/-- The power of an element. -/
def power (a : UInt8) : Nat → UInt8
  | 0 => 1
  | n + 1 => multiply a (power a n)

/-- The inverse of an element, zero for zero. -/
def inverse (a : UInt8) : UInt8 :=
  power a 254

/-- An octet rotated to the left. -/
def turn (a : UInt8) (n : UInt8) : UInt8 :=
  a <<< n ||| a >>> (8 - n)

/-- The substitution of an octet, by its definition. -/
def substituteSlow (a : UInt8) : UInt8 :=
  let b := inverse a
  b ^^^ turn b 1 ^^^ turn b 2 ^^^ turn b 3 ^^^ turn b 4 ^^^ 0x63

/-- The substitutions of all octets. -/
def substitution : Array UInt8 :=
  Array.ofFn fun n : Fin 256 => substituteSlow (UInt8.ofNat n)

/-- The substitution of an octet. -/
def substitute (a : UInt8) : UInt8 :=
  substitution.getD a.toNat 0

/-! ## Columns and blocks -/

/-- A column of a block. -/
structure Column where
  (a b c d : UInt8)
  deriving DecidableEq, Inhabited

namespace Column

/-- Octet by octet. -/
def map (f : UInt8 → UInt8) (k : Column) : Column :=
  ⟨f k.a, f k.b, f k.c, f k.d⟩

/-- Addition in the field, octet by octet. -/
def add (k l : Column) : Column :=
  ⟨k.a ^^^ l.a, k.b ^^^ l.b, k.c ^^^ l.c, k.d ^^^ l.d⟩

/-- The first octet moved to the end. -/
def rotate (k : Column) : Column :=
  ⟨k.b, k.c, k.d, k.a⟩

/-- Multiplication by the fixed polynomial with the coefficients 2, 1, 1, 3. -/
def mix (k : Column) : Column :=
  let sum := k.a ^^^ k.b ^^^ k.c ^^^ k.d
  ⟨k.a ^^^ sum ^^^ double (k.a ^^^ k.b), k.b ^^^ sum ^^^ double (k.b ^^^ k.c),
    k.c ^^^ sum ^^^ double (k.c ^^^ k.d), k.d ^^^ sum ^^^ double (k.d ^^^ k.a)⟩

end Column

/-- Sixteen octets in four columns. -/
structure Block where
  (k l m n : Column)
  deriving DecidableEq, Inhabited

namespace Block

/-- Column by column. -/
def map (f : Column → Column) (b : Block) : Block :=
  ⟨f b.k, f b.l, f b.m, f b.n⟩

/-- Addition in the field, octet by octet. -/
def add (b c : Block) : Block :=
  ⟨b.k.add c.k, b.l.add c.l, b.m.add c.m, b.n.add c.n⟩

/-- The rows turned to the left, each by one more octet than the one above it. -/
def turnRows (b : Block) : Block :=
  ⟨⟨b.k.a, b.l.b, b.m.c, b.n.d⟩, ⟨b.l.a, b.m.b, b.n.c, b.k.d⟩,
    ⟨b.m.a, b.n.b, b.k.c, b.l.d⟩, ⟨b.n.a, b.k.b, b.l.c, b.m.d⟩⟩

/-- The block that sixteen octets make; missing octets are zero. -/
def ofOctets (bs : List UInt8) : Block :=
  let column (i : Nat) : Column :=
    ⟨bs.getD i 0, bs.getD (i + 1) 0, bs.getD (i + 2) 0, bs.getD (i + 3) 0⟩
  ⟨column 0, column 4, column 8, column 12⟩

/-- The octets of a block. -/
def toOctets (b : Block) : List UInt8 :=
  [b.k, b.l, b.m, b.n].flatMap fun k => [k.a, k.b, k.c, k.d]

theorem length_toOctets (b : Block) : b.toOctets.length = 16 :=
  rfl

end Block

/-! ## Keys and rounds -/

/-- Each column of the sum of a block and the column before it. -/
def chained (b : Block) (before : Column) : Block :=
  let k := b.k.add before
  let l := b.l.add k
  let m := b.m.add l
  ⟨k, l, m, b.n.add m⟩

/-- The two round keys that follow two others. -/
def nextKeys (constant : UInt8) (keys : Block × Block) : Block × Block :=
  let before := keys.2.n.rotate.map substitute
  let first := chained keys.1 { before with a := before.a ^^^ constant }
  (first, chained keys.2 (first.n.map substitute))

/-- The pairs of round keys from a pair on. -/
def keyPairs (constant : UInt8) (keys : Block × Block) : Nat → List (Block × Block)
  | 0 => []
  | n + 1 => keys :: keyPairs (double constant) (nextKeys constant keys) n

/-- The fifteen round keys of a key of 32 octets. -/
def roundKeys (key : List UInt8) : List Block :=
  ((keyPairs 1 (.ofOctets (key.take 16), .ofOctets (key.drop 16)) 8).flatMap
    fun (first, second) => [first, second]).take 15

/-- The rounds with the given keys; the last one mixes no columns. -/
def rounds (b : Block) : List Block → Block
  | [] => b
  | [key] => ((b.map (·.map substitute)).turnRows).add key
  | key :: keys => rounds (((b.map (·.map substitute)).turnRows.map Column.mix).add key) keys

/-- The block encrypted under the round keys. -/
def encrypt (keys : List Block) (b : Block) : Block :=
  match keys with
  | [] => b
  | key :: keys => rounds (b.add key) keys

end Proofing.Crypto.Aes
