import Proofing.Crypto.Blake2b
/-
  Proofing — the password hash Argon2id, version 1.3, without secret and
  associated data.

  The memory is a number of lanes, each a row of blocks of 1024 octets.  It is
  filled in passes of four slices; every block is the compression of the one
  before it and of another block, chosen by `reference`.  In the first half of
  the first pass the choice does not depend on the password.

  * `Cost` says how much memory and time is used; `Cost.check` refuses what
    cannot be;
  * `hash` is the result for a password and a salt.
-/
namespace Proofing.Crypto.Argon2id

/-- How much a hash costs. -/
structure Cost where
  /-- Memory, in blocks of 1024 octets. -/
  memory : UInt32
  /-- Passes over the memory. -/
  passes : UInt32
  /-- Lanes that can be filled side by side. -/
  lanes : UInt32
  deriving DecidableEq, Repr

/-- Why there is no hash. -/
inductive Error where
  | littleMemory
  | fewPasses
  | fewLanes
  | manyLanes
  | shortSalt
  deriving DecidableEq, Repr

/-- The wording of a refusal. -/
def Error.message : Error → String
  | littleMemory => "memory cost is too small"
  | fewPasses => "time cost is too small"
  | fewLanes => "not enough threads"
  | manyLanes => "too many threads"
  | shortSalt => "salt is too short"

/-- At least eight blocks, eight for each lane, one pass, and 1 to 2^24 - 1 lanes. -/
def Cost.check (c : Cost) : Except Error Unit :=
  if c.memory < 8 ∨ c.memory < 8 * c.lanes then .error .littleMemory
  else if c.passes < 1 then .error .fewPasses
  else if c.lanes < 1 then .error .fewLanes
  else if 0xFFFFFF < c.lanes then .error .manyLanes
  else .ok ()

/-! ## Compression -/

/-- A block: eight rows of sixteen words. -/
structure Block where
  (r0 r1 r2 r3 r4 r5 r6 r7 : Words)
  deriving Inhabited

/-- Addition with twice the product of the lower halves. -/
@[inline] def blend (x y : UInt64) : UInt64 :=
  x + y + 2 * (x &&& 0xffffffff) * (y &&& 0xffffffff)

/-- Mixes four words. -/
@[inline] def mix {α : Type} (a b c d : UInt64)
    (next : UInt64 → UInt64 → UInt64 → UInt64 → α) : α :=
  let a := blend a b
  let d := rotate (d ^^^ a) 32
  let c := blend c d
  let b := rotate (b ^^^ c) 24
  let a := blend a b
  let d := rotate (d ^^^ a) 16
  let c := blend c d
  let b := rotate (b ^^^ c) 63
  next a b c d

/-- One round on a row: its columns, then its diagonals. -/
def round (v : Words) : Words :=
  mix v.w0 v.w4 v.w8 v.w12 fun a0 b0 c0 d0 =>
  mix v.w1 v.w5 v.w9 v.w13 fun a1 b1 c1 d1 =>
  mix v.w2 v.w6 v.w10 v.w14 fun a2 b2 c2 d2 =>
  mix v.w3 v.w7 v.w11 v.w15 fun a3 b3 c3 d3 =>
  mix a0 b1 c2 d3 fun a4 b4 c4 d4 =>
  mix a1 b2 c3 d0 fun a5 b5 c5 d5 =>
  mix a2 b3 c0 d1 fun a6 b6 c6 d6 =>
  mix a3 b0 c1 d2 fun a7 b7 c7 d7 =>
  ⟨a4, a5, a6, a7, b7, b4, b5, b6,
    c6, c7, c4, c5, d5, d6, d7, d4⟩

namespace Block

/-- The block of zeros. -/
def zero : Block :=
  let row := Words.ofFn fun _ => 0
  ⟨row, row, row, row, row, row, row, row⟩

/-- Word by word. -/
def xor (b c : Block) : Block :=
  ⟨b.r0.xor c.r0, b.r1.xor c.r1, b.r2.xor c.r2, b.r3.xor c.r3,
    b.r4.xor c.r4, b.r5.xor c.r5, b.r6.xor c.r6, b.r7.xor c.r7⟩

/-- Every row mixed. -/
def mixRows (b : Block) : Block :=
  ⟨round b.r0, round b.r1, round b.r2, round b.r3, round b.r4, round b.r5, round b.r6, round b.r7⟩

/-- Rows and columns exchanged, a column being two words wide. -/
def transpose (b : Block) : Block :=
  ⟨⟨b.r0.w0, b.r0.w1, b.r1.w0, b.r1.w1, b.r2.w0, b.r2.w1, b.r3.w0, b.r3.w1,
      b.r4.w0, b.r4.w1, b.r5.w0, b.r5.w1, b.r6.w0, b.r6.w1, b.r7.w0, b.r7.w1⟩,
    ⟨b.r0.w2, b.r0.w3, b.r1.w2, b.r1.w3, b.r2.w2, b.r2.w3, b.r3.w2, b.r3.w3,
      b.r4.w2, b.r4.w3, b.r5.w2, b.r5.w3, b.r6.w2, b.r6.w3, b.r7.w2, b.r7.w3⟩,
    ⟨b.r0.w4, b.r0.w5, b.r1.w4, b.r1.w5, b.r2.w4, b.r2.w5, b.r3.w4, b.r3.w5,
      b.r4.w4, b.r4.w5, b.r5.w4, b.r5.w5, b.r6.w4, b.r6.w5, b.r7.w4, b.r7.w5⟩,
    ⟨b.r0.w6, b.r0.w7, b.r1.w6, b.r1.w7, b.r2.w6, b.r2.w7, b.r3.w6, b.r3.w7,
      b.r4.w6, b.r4.w7, b.r5.w6, b.r5.w7, b.r6.w6, b.r6.w7, b.r7.w6, b.r7.w7⟩,
    ⟨b.r0.w8, b.r0.w9, b.r1.w8, b.r1.w9, b.r2.w8, b.r2.w9, b.r3.w8, b.r3.w9,
      b.r4.w8, b.r4.w9, b.r5.w8, b.r5.w9, b.r6.w8, b.r6.w9, b.r7.w8, b.r7.w9⟩,
    ⟨b.r0.w10, b.r0.w11, b.r1.w10, b.r1.w11, b.r2.w10, b.r2.w11, b.r3.w10, b.r3.w11,
      b.r4.w10, b.r4.w11, b.r5.w10, b.r5.w11, b.r6.w10, b.r6.w11, b.r7.w10, b.r7.w11⟩,
    ⟨b.r0.w12, b.r0.w13, b.r1.w12, b.r1.w13, b.r2.w12, b.r2.w13, b.r3.w12, b.r3.w13,
      b.r4.w12, b.r4.w13, b.r5.w12, b.r5.w13, b.r6.w12, b.r6.w13, b.r7.w12, b.r7.w13⟩,
    ⟨b.r0.w14, b.r0.w15, b.r1.w14, b.r1.w15, b.r2.w14, b.r2.w15, b.r3.w14, b.r3.w15,
      b.r4.w14, b.r4.w15, b.r5.w14, b.r5.w15, b.r6.w14, b.r6.w15, b.r7.w14, b.r7.w15⟩⟩

/-- The word at a position. -/
def get (b : Block) (i : Nat) : UInt64 :=
  match i / 16 with
  | 0 => b.r0.get (i % 16)
  | 1 => b.r1.get (i % 16)
  | 2 => b.r2.get (i % 16)
  | 3 => b.r3.get (i % 16)
  | 4 => b.r4.get (i % 16)
  | 5 => b.r5.get (i % 16)
  | 6 => b.r6.get (i % 16)
  | _ => b.r7.get (i % 16)

/-- The block that 1024 octets make. -/
def ofOctets (bs : List UInt8) : Block :=
  let row (i : Nat) := Words.ofOctets ((bs.drop (128 * i)).take 128)
  ⟨row 0, row 1, row 2, row 3, row 4, row 5, row 6, row 7⟩

/-- The octets of a block. -/
def toOctets (b : Block) : List UInt8 :=
  [b.r0, b.r1, b.r2, b.r3, b.r4, b.r5, b.r6, b.r7].flatMap fun row => row.toList.flatMap octets

end Block

/-- Compresses two blocks into one: rows and then columns of their difference are mixed. -/
def compress (x y : Block) : Block :=
  let r := x.xor y
  r.xor r.mixRows.transpose.mixRows.transpose

/-! ## Hashes of any length -/

/-- Hashes of 64 octets, each of the one before it. -/
def chain (v : List UInt8) : Nat → List (List UInt8)
  | 0 => []
  | n + 1 => v :: chain (Blake2b.hash 64 v) n

/-- The hash of a message, `size` octets long: halves of a chain of hashes, and all of the last. -/
def longHash (size : Nat) (message : List UInt8) : List UInt8 :=
  let message := octets32 size ++ message
  if size ≤ 64 then Blake2b.hash size message
  else
    let r := (size + 31) / 32 - 2
    let vs := chain (Blake2b.hash 64 message) r
    vs.flatMap (·.take 32) ++ Blake2b.hash (size - 32 * r) (vs.getLastD [])

/-- A field of the first hash: its length and its octets. -/
def lengthPrefixed (bs : List UInt8) : List UInt8 :=
  octets32 bs.length ++ bs

/-- The hash of everything that the result depends on. -/
def seed (c : Cost) (size : Nat) (password salt : List UInt8) : List UInt8 :=
  Blake2b.hash 64 <|
    octets32 c.lanes.toNat ++ octets32 size ++ octets32 c.memory.toNat ++
      octets32 c.passes.toNat ++ octets32 0x13 ++ octets32 2 ++
      lengthPrefixed password ++ lengthPrefixed salt ++ lengthPrefixed [] ++ lengthPrefixed []

/-! ## Filling the memory -/

/-- The measures of the memory. -/
structure Shape where
  lanes : Nat
  /-- Blocks of a lane that one slice fills. -/
  segment : Nat
  passes : Nat

/-- Blocks of a lane. -/
def Shape.columns (s : Shape) : Nat :=
  4 * s.segment

/-- The largest memory within the cost that is divided evenly. -/
def Shape.ofCost (c : Cost) : Shape :=
  ⟨c.lanes.toNat, c.memory.toNat / (4 * c.lanes.toNat), c.passes.toNat⟩

/-- Where the memory is being filled. -/
structure Place where
  pass : Nat
  slice : Nat
  lane : Nat

/-- The choice of other blocks does not depend on the password. -/
def Place.independent (p : Place) : Bool :=
  p.pass == 0 && p.slice < 2

/-- The block of choices number `counter` at a place. -/
def addresses (s : Shape) (p : Place) (counter : Nat) : Block :=
  let words := #[p.pass, p.lane, p.slice, s.lanes * s.columns, s.passes, 2, counter]
  let input := { Block.zero with r0 := Words.ofFn fun i => UInt64.ofNat (words.getD i 0) }
  compress Block.zero (compress Block.zero input)

/-- How many blocks may be chosen at `index` of a segment, from the same lane or another. -/
def candidates (s : Shape) (p : Place) (index : Nat) (same : Bool) : Nat :=
  let finished := if p.pass = 0 then p.slice * s.segment else s.columns - s.segment
  if same then finished + index - 1
  else if index = 0 then finished - 1
  else finished

/-- The position in the memory of the block that `choice` names: the upper half chooses the lane,
    the square of the lower half the column, later columns more often. -/
def reference (s : Shape) (p : Place) (index : Nat) (choice : UInt64) : Nat :=
  let lane :=
    if p.pass = 0 ∧ p.slice = 0 then p.lane else (choice >>> 32).toNat % s.lanes
  let low := choice &&& 0xffffffff
  let size := candidates s p index (lane == p.lane)
  let skipped := (UInt64.ofNat size * ((low * low) >>> 32)) >>> 32
  let start := if p.pass = 0 ∨ p.slice = 3 then 0 else (p.slice + 1) * s.segment
  lane * s.columns + (start + (size - 1 - skipped.toNat)) % s.columns

/-- The memory and the current block of choices. -/
structure Filling where
  memory : Array Block
  choices : Block

/-- Fills the block at `index` of a segment. -/
def fillBlock (s : Shape) (p : Place) (f : Filling) (index : Nat) : Filling :=
  let first := p.lane * s.columns
  let column := p.slice * s.segment + index
  let before := first + (if column = 0 then s.columns - 1 else column - 1)
  let ⟨memory, choices⟩ := f
  let choices :=
    if p.independent ∧ index % 128 = 0 then addresses s p (index / 128 + 1) else choices
  let previous := memory.getD before Block.zero
  let choice := if p.independent then choices.get (index % 128) else previous.r0.w0
  let other := memory.getD (reference s p index choice) Block.zero
  let block := compress previous other
  if p.pass = 0 then ⟨memory.setIfInBounds (first + column) block, choices⟩
  else
    let old := memory.getD (first + column) Block.zero
    ⟨memory.setIfInBounds (first + column) (block.xor old), choices⟩

/-- Fills a segment; the first two blocks of a lane are given. -/
def fillSegment (s : Shape) (p : Place) (memory : Array Block) : Array Block :=
  let given := if p.pass = 0 ∧ p.slice = 0 then 2 else 0
  let choices :=
    if p.independent ∧ given ≠ 0 then addresses s p 1 else Block.zero
  (Nat.fold (s.segment - given) (fun i _ f => fillBlock s p f (given + i))
    (Filling.mk memory choices)).memory

/-- Fills the memory in all passes. -/
def fill (s : Shape) (memory : Array Block) : Array Block :=
  Nat.fold s.passes (fun pass _ memory =>
    Nat.fold 4 (fun slice _ memory =>
      Nat.fold s.lanes (fun lane _ memory => fillSegment s ⟨pass, slice, lane⟩ memory) memory)
      memory) memory

/-- The memory with the first two blocks of every lane. -/
def start (s : Shape) (seed : List UInt8) : Array Block :=
  Nat.fold s.lanes (fun lane _ memory =>
    let given (i : Nat) := Block.ofOctets (longHash 1024 (seed ++ octets32 i ++ octets32 lane))
    let first := lane * s.columns
    (memory.setIfInBounds first (given 0)).setIfInBounds (first + 1) (given 1))
    (Array.replicate (s.lanes * s.columns) Block.zero)

/-- The hash of a password with a salt of at least eight octets. -/
def hash (c : Cost) (size : Nat) (password salt : List UInt8) : Except Error (List UInt8) := do
  c.check
  if salt.length < 8 then throw .shortSalt
  let s := Shape.ofCost c
  let memory := fill s (start s (seed c size password salt))
  let last := Nat.fold s.lanes (fun lane _ acc =>
    acc.xor (memory.getD (lane * s.columns + s.columns - 1) Block.zero)) Block.zero
  return longHash size last.toOctets

end Proofing.Crypto.Argon2id
