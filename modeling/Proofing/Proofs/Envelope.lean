import Mathlib.Tactic.Common
import Proofing.Envelope
/-
  Proofing — sealing personal data.

  Whatever the password, only the cost decides whether an envelope can be made
  (`Envelope.lock_eq`).
-/
namespace Proofing

/-- Deriving a key fails for its cost or its salt alone. -/
theorem Crypto.Argon2id.hash_ok {c : Cost} (h : c.check = .ok ()) (size : Nat)
    (password : List UInt8) {salt : List UInt8} (hs : 8 ≤ salt.length) :
    ∃ k, hash c size password salt = .ok k := by
  have hs' : ¬ salt.length < 8 := by omega
  simp only [hash, h, bind, Except.bind, if_neg hs']
  exact ⟨_, rfl⟩

namespace Envelope

theorem key_ok {cost : KeyCost} (h : cost.check = .ok ()) (password : Password) (draw : Draw) :
    ∃ k, key cost password (List.ofFn draw.salt) = .ok k := by
  have hs : 8 ≤ (List.ofFn draw.salt).length := by rw [List.length_ofFn]; decide
  obtain ⟨k, hk⟩ := Crypto.Argon2id.hash_ok h keySize (Text.octets password.text) hs
  exact ⟨k, by rw [key, hk]; rfl⟩

theorem lock_eq {cost : KeyCost} {password : Password} {draw : Draw} {k : List UInt8}
    (h : key cost password (List.ofFn draw.salt) = .ok k) (pii : Pii) :
    lock pii password cost draw = .ok
      { version := currentVersion
        cipher := "aes-256-gcm"
        derivation := "argon2id"
        cost := cost
        salt := Hex.encode (List.ofFn draw.salt)
        nonce := Hex.encode (List.ofFn draw.nonce)
        ciphertext := Hex.encode (Crypto.Gcm.encrypt k (List.ofFn draw.nonce)
          (Text.octets pii.text)) } := by
  simp only [lock, h]
  rfl

/-- Personal data can be sealed under every password, if a key can have the cost. -/
theorem lock_ok {cost : KeyCost} (h : cost.check = .ok ()) (pii : Pii) (password : Password)
    (draw : Draw) : ∃ e, lock pii password cost draw = .ok e := by
  obtain ⟨k, hk⟩ := key_ok h password draw
  exact ⟨_, lock_eq hk pii⟩

end Envelope

end Proofing
