import Proofing.Crypto.Aes
/-
  Proofing — authenticated encryption with AES in Galois counter mode, with a
  nonce of twelve octets and without associated data.

  The cipher encrypts a counter; the octets that come out are added to the text
  (`mask`).  A tag of sixteen octets, the value of a polynomial over the field of
  2^128 elements at a point that depends on the key, is put behind it.

  * `encrypt` encrypts and tags, `decrypt?` checks the tag and decrypts;
  * `decrypt?_encrypt`: what was encrypted can be decrypted under the same key and nonce.
-/
namespace Proofing.Crypto.Gcm

/-! ## The field of tags -/

/-- Multiplication by `x`, the highest bit being the constant term, modulo
    `x^128 + x^7 + x^2 + x + 1`. -/
def shifted (v : BitVec 128) : BitVec 128 :=
  if v.getLsbD 0 then v >>> 1 ^^^ 0xE1#128 <<< 120 else v >>> 1

/-- Multiplication of field elements. -/
def multiply (x y : BitVec 128) : BitVec 128 :=
  ((List.range 128).foldl
    (fun (sum, power) i => (if x.getMsbD i then sum ^^^ power else sum, shifted power))
    ((0, y) : BitVec 128 × BitVec 128)).1

/-- The element that up to sixteen octets make, filled up with zeros. -/
def element (bs : List UInt8) : BitVec 128 :=
  (List.range 16).foldl (fun acc i => acc <<< 8 ||| BitVec.ofNat 128 (bs.getD i 0).toNat) 0

/-- The sixteen octets of an element. -/
def octets (x : BitVec 128) : List UInt8 :=
  (List.range 16).map fun i => UInt8.ofNat (x >>> (120 - 8 * i)).toNat

/-- The octets in blocks of sixteen, the last one being what is left. -/
def blocks : List UInt8 → List (List UInt8)
  | a :: b :: c :: d :: e :: f :: g :: h :: i :: j :: k :: l :: m :: n :: o :: p :: rest =>
    [a, b, c, d, e, f, g, h, i, j, k, l, m, n, o, p] :: blocks rest
  | [] => []
  | rest => [rest]

/-- The polynomial with the blocks of a text and its length in bits as coefficients, at `point`. -/
def evaluate (point : BitVec 128) (text : List UInt8) : BitVec 128 :=
  ((blocks text).map element ++ [BitVec.ofNat 128 (8 * text.length)]).foldl
    (fun acc block => multiply (acc ^^^ block) point) 0

/-! ## The counter -/

/-- The nonce with a counter of 32 bits behind it, encrypted. -/
def pad (keys : List Aes.Block) (nonce : List UInt8) (counter : Nat) : List UInt8 :=
  let count := (List.range 4).map fun i => UInt8.ofNat (counter >>> (24 - 8 * i))
  (Aes.encrypt keys (.ofOctets (nonce ++ count))).toOctets

/-- The pads of as many blocks, from a counter on. -/
def pads (keys : List Aes.Block) (nonce : List UInt8) (counter : Nat) : Nat → List UInt8
  | 0 => []
  | n + 1 => pad keys nonce counter ++ pads keys nonce (counter + 1) n

/-- Adds pads to a text: the same map encrypts and decrypts. -/
def mask (keys : List Aes.Block) (nonce text : List UInt8) : List UInt8 :=
  text.zipWith (· ^^^ ·) (pads keys nonce 2 ((text.length + 15) / 16))

/-- The tag of an encrypted text. -/
def tag (keys : List Aes.Block) (nonce text : List UInt8) : List UInt8 :=
  let point := element (Aes.encrypt keys (.ofOctets [])).toOctets
  octets (evaluate point text ^^^ element (pad keys nonce 1))

/-! ## Encryption -/

/-- The octets of a tag. -/
def tagSize : Nat := 16

/-- The text encrypted, with its tag behind it. -/
def encrypt (key nonce text : List UInt8) : List UInt8 :=
  let keys := Aes.roundKeys key
  let masked := mask keys nonce text
  masked ++ tag keys nonce masked

/-- The text that was encrypted; none if the tag does not fit. -/
def decrypt? (key nonce secret : List UInt8) : Option (List UInt8) :=
  let keys := Aes.roundKeys key
  let masked := secret.take (secret.length - tagSize)
  if secret.length < tagSize ∨ tag keys nonce masked ≠ secret.drop masked.length then none
  else some (mask keys nonce masked)

theorem length_pads (keys : List Aes.Block) (nonce : List UInt8) (counter n : Nat) :
    (pads keys nonce counter n).length = 16 * n := by
  induction n generalizing counter with
  | zero => rfl
  | succ n ih => simp [pads, pad, Aes.Block.length_toOctets, ih]; omega

theorem length_mask (keys : List Aes.Block) (nonce text : List UInt8) :
    (mask keys nonce text).length = text.length := by
  simp only [mask, List.length_zipWith, length_pads]
  omega

theorem length_tag (keys : List Aes.Block) (nonce text : List UInt8) :
    (tag keys nonce text).length = tagSize := by
  simp [tag, octets, tagSize]

/-- Adding the same octets twice changes nothing. -/
theorem zipWith_xor_self {text other : List UInt8} (h : text.length ≤ other.length) :
    (text.zipWith (· ^^^ ·) other).zipWith (· ^^^ ·) other = text := by
  induction text generalizing other with
  | nil => simp
  | cons a text ih =>
    cases other with
    | nil => simp at h
    | cons b other =>
      have rest := ih (Nat.le_of_succ_le_succ h)
      rw [List.zipWith_cons_cons, List.zipWith_cons_cons, rest, UInt8.xor_assoc, UInt8.xor_self,
        UInt8.xor_zero]

theorem mask_mask (keys : List Aes.Block) (nonce text : List UInt8) :
    mask keys nonce (mask keys nonce text) = text := by
  rw [mask, length_mask]
  exact zipWith_xor_self (by rw [length_pads]; omega)

/-- What was encrypted can be decrypted under the same key and nonce. -/
theorem decrypt?_encrypt (key nonce text : List UInt8) :
    decrypt? key nonce (encrypt key nonce text) = some text := by
  have h : (encrypt key nonce text).length - tagSize =
      (mask (Aes.roundKeys key) nonce text).length := by
    simp [encrypt, length_tag]
  simp only [decrypt?, h]
  simp [encrypt, length_tag, mask_mask]

end Proofing.Crypto.Gcm
