import Proofing.Crypto.Words
/-
  Proofing — the hash function BLAKE2b, without key, with results of 1 to 64
  octets.

  The message is taken in blocks of 128 octets, the last one filled up with
  zeros; twelve rounds mix each block into a chain of eight words.
-/
namespace Proofing.Crypto.Blake2b

/-- The initial words. -/
def initial : List UInt64 :=
  [0x6a09e667f3bcc908, 0xbb67ae8584caa73b, 0x3c6ef372fe94f82b, 0xa54ff53a5f1d36f1,
    0x510e527fade682d1, 0x9b05688c2b3e6c1f, 0x1f83d9abfb41bd6b, 0x5be0cd19137e2179]

/-- The order in which each round takes the words of the block. -/
def schedule : List (Array Nat) :=
  [#[0, 1, 2, 3, 4, 5, 6, 7, 8, 9, 10, 11, 12, 13, 14, 15],
    #[14, 10, 4, 8, 9, 15, 13, 6, 1, 12, 0, 2, 11, 7, 5, 3],
    #[11, 8, 12, 0, 5, 2, 15, 13, 10, 14, 3, 6, 7, 1, 9, 4],
    #[7, 9, 3, 1, 13, 12, 11, 14, 2, 6, 5, 10, 4, 0, 15, 8],
    #[9, 0, 5, 7, 2, 4, 10, 15, 14, 1, 11, 12, 6, 8, 3, 13],
    #[2, 12, 6, 10, 0, 11, 8, 3, 4, 13, 7, 5, 15, 14, 1, 9],
    #[12, 5, 1, 15, 14, 13, 4, 10, 0, 7, 6, 3, 9, 2, 8, 11],
    #[13, 11, 7, 14, 12, 1, 3, 9, 5, 0, 15, 4, 8, 6, 2, 10],
    #[6, 15, 14, 9, 11, 3, 0, 8, 12, 2, 13, 7, 1, 4, 10, 5],
    #[10, 2, 8, 4, 7, 6, 1, 5, 15, 11, 9, 14, 3, 12, 13, 0],
    #[0, 1, 2, 3, 4, 5, 6, 7, 8, 9, 10, 11, 12, 13, 14, 15],
    #[14, 10, 4, 8, 9, 15, 13, 6, 1, 12, 0, 2, 11, 7, 5, 3]]

/-- Mixes two words of the block into four words of the state. -/
@[inline] def mix {α : Type} (a b c d x y : UInt64)
    (next : UInt64 → UInt64 → UInt64 → UInt64 → α) : α :=
  let a := a + b + x
  let d := rotate (d ^^^ a) 32
  let c := c + d
  let b := rotate (b ^^^ c) 24
  let a := a + b + y
  let d := rotate (d ^^^ a) 16
  let c := c + d
  let b := rotate (b ^^^ c) 63
  next a b c d

/-- One round: the columns, then the diagonals. -/
def round (m : Nat → UInt64) (v : Words) : Words :=
  mix v.w0 v.w4 v.w8 v.w12 (m 0) (m 1) fun a0 b0 c0 d0 =>
  mix v.w1 v.w5 v.w9 v.w13 (m 2) (m 3) fun a1 b1 c1 d1 =>
  mix v.w2 v.w6 v.w10 v.w14 (m 4) (m 5) fun a2 b2 c2 d2 =>
  mix v.w3 v.w7 v.w11 v.w15 (m 6) (m 7) fun a3 b3 c3 d3 =>
  mix a0 b1 c2 d3 (m 8) (m 9) fun a4 b4 c4 d4 =>
  mix a1 b2 c3 d0 (m 10) (m 11) fun a5 b5 c5 d5 =>
  mix a2 b3 c0 d1 (m 12) (m 13) fun a6 b6 c6 d6 =>
  mix a3 b0 c1 d2 (m 14) (m 15) fun a7 b7 c7 d7 =>
  ⟨a4, a5, a6, a7, b7, b4, b5, b6,
    c6, c7, c4, c5, d5, d6, d7, d4⟩

/-- Mixes a block into the chain, after `count` octets in all. -/
def compress (chain : List UInt64) (block : List UInt8) (count : Nat) (last : Bool) : List UInt64 :=
  let m := Words.ofOctets block
  let start := chain ++ initial.zipWith (· ^^^ ·)
    [0, 0, 0, 0, UInt64.ofNat count, UInt64.ofNat (count >>> 64),
      if last then 0xffffffffffffffff else 0, 0]
  let start := start.toArray
  let v := schedule.foldl (fun v order => round (fun i => m.get (order.getD i 0)) v)
    (Words.ofFn fun i => start.getD i 0)
  let w := v.toList
  chain.zipWith (· ^^^ ·) ((w.take 8).zipWith (· ^^^ ·) (w.drop 8))

/-- The octets of a block. -/
def blockSize : Nat := 128

/-- Mixes the rest of a message into the chain, after `count` octets; the last block is mixed in
    with a mark of its own. -/
def absorb (chain : List UInt64) (count : Nat) (message : List UInt8) : List UInt64 :=
  if blockSize < message.length then
    absorb (compress chain (message.take blockSize) (count + blockSize) false) (count + blockSize)
      (message.drop blockSize)
  else compress chain message (count + message.length) true
termination_by message.length
decreasing_by
  rename_i h
  rw [List.length_drop]
  exact Nat.sub_lt (Nat.zero_lt_of_lt h) (Nat.zero_lt_succ 127)

/-- The hash of a message, `size` octets long. -/
def hash (size : Nat) (message : List UInt8) : List UInt8 :=
  let chain := initial.zipWith (· ^^^ ·)
    [0x01010000 ^^^ UInt64.ofNat size, 0, 0, 0, 0, 0, 0, 0]
  ((absorb chain 0 message).flatMap octets).take size

end Proofing.Crypto.Blake2b
