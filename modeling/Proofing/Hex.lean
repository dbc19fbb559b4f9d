import Proofing.Text.Octets
import Proofing.Text.Quoted
/-
  Proofing — octets as hexadecimal digits.

  * `Hex.encode` writes two lower-case digits for each octet;
  * `Hex.decode` takes digits of either case; an odd number of them is refused
    before any of them is looked at;
  * `decode_encode`: what was written reads back.
-/
namespace Proofing.Hex

/-- Why a text is no sequence of octets. -/
inductive Error where
  | oddLength
  /-- The first octet that is no digit, and its position. -/
  | badDigit (octet : UInt8) (position : Nat)
  deriving DecidableEq, Repr

/-- The wording of a refusal; an octet is shown as the character with its number. -/
def Error.message : Error → String
  | oddLength => "Odd number of digits"
  | badDigit octet position =>
    "Invalid character " ++ Text.quotedLetter (Char.ofNat octet.toNat) ++ " at position " ++
      toString position

/-- The two digits of an octet. -/
def digits (b : UInt8) : List Char :=
  [Nat.digitChar (b.toNat / 16), Nat.digitChar (b.toNat % 16)]

/-- The digits of octets. -/
def encodeChars (bs : List UInt8) : List Char :=
  bs.flatMap digits

/-- The digits of octets. -/
def encode (bs : List UInt8) : String :=
  String.ofList (encodeChars bs)

/-- The value of a digit given by its octet. -/
def value? (b : UInt8) : Option Nat :=
  let n := b.toNat
  if 0x30 ≤ n ∧ n ≤ 0x39 then some (n - 0x30)
  else if 0x61 ≤ n ∧ n ≤ 0x66 then some (n - 0x61 + 10)
  else if 0x41 ≤ n ∧ n ≤ 0x46 then some (n - 0x41 + 10)
  else none

/-- Octets from pairs of digits that start at a position. -/
def pairs (position : Nat) : List UInt8 → Except Error (List UInt8)
  | [] => .ok []
  | [_] => .error .oddLength
  | a :: b :: rest =>
    match value? a, value? b with
    | some x, some y => (pairs (position + 2) rest).map (UInt8.ofNat (x * 16 + y) :: ·)
    | none, _ => .error (.badDigit a position)
    | some _, none => .error (.badDigit b (position + 1))

/-- The octets of a text of digits. -/
def decode (text : String) : Except Error (List UInt8) :=
  let bs := Text.octets text
  if bs.length % 2 = 1 then .error .oddLength else pairs 0 bs

/-! ## Reading what was written -/

/-- The octet of a digit. -/
theorem utf8EncodeChar_digitChar {n : Nat} (h : n < 16) :
    ∃ x, String.utf8EncodeChar (Nat.digitChar n) = [x] ∧ value? x = some n := by
  have key : ∀ n : Fin 16, String.utf8EncodeChar (Nat.digitChar n) =
      [(Nat.digitChar n).toNat.toUInt8] ∧ value? (Nat.digitChar n).toNat.toUInt8 = some n.val := by
    decide
  exact ⟨_, key ⟨n, h⟩⟩

/-- The octets of the two digits of an octet. -/
theorem octets_digits (b : UInt8) :
    ∃ x y, (digits b).flatMap String.utf8EncodeChar = [x, y] ∧
      value? x = some (b.toNat / 16) ∧ value? y = some (b.toNat % 16) := by
  have hb : b.toNat < 256 := b.toNat_lt
  obtain ⟨x, hx, vx⟩ := utf8EncodeChar_digitChar (n := b.toNat / 16) (by omega)
  obtain ⟨y, hy, vy⟩ := utf8EncodeChar_digitChar (n := b.toNat % 16) (by omega)
  exact ⟨x, y, by simp [digits, hx, hy], vx, vy⟩

theorem octets_encode (bs : List UInt8) :
    Text.octets (encode bs) = bs.flatMap fun b => (digits b).flatMap String.utf8EncodeChar := by
  rw [encode, Text.octets_ofList, encodeChars, List.flatMap_assoc]

theorem length_octets_encode (bs : List UInt8) :
    (Text.octets (encode bs)).length = 2 * bs.length := by
  rw [octets_encode]
  induction bs with
  | nil => rfl
  | cons b bs ih =>
    obtain ⟨x, y, h, -⟩ := octets_digits b
    simp only [List.flatMap_cons, List.length_append, ih, h, List.length_cons, List.length_nil]
    omega

theorem pairs_octets_encode (bs : List UInt8) (position : Nat) :
    pairs position (Text.octets (encode bs)) = .ok bs := by
  rw [octets_encode]
  induction bs generalizing position with
  | nil => rfl
  | cons b bs ih =>
    obtain ⟨x, y, h, vx, vy⟩ := octets_digits b
    have hb : UInt8.ofNat (b.toNat / 16 * 16 + b.toNat % 16) = b := by
      rw [show b.toNat / 16 * 16 + b.toNat % 16 = b.toNat by omega, UInt8.ofNat_toNat]
    simp only [List.flatMap_cons, h, List.cons_append, List.nil_append, pairs, vx, vy, ih, hb,
      Except.map]

/-- What was written reads back. -/
theorem decode_encode (bs : List UInt8) : decode (encode bs) = .ok bs := by
  simp [decode, length_octets_encode, pairs_octets_encode]

end Proofing.Hex
