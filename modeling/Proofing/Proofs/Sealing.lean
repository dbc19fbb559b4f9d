import Proofing.Envelope
import Proofing.Proofs.Json.Forms
import Proofing.Proofs.Json.Values
/-
  Proofing — what opens sealed personal data.

  An envelope is read from JSON as it was written, from the value
  (`Coded.Lawful Envelope`) and from its text (`Envelope.parse?_encode`), so it
  opens there as well (`Envelope.opens_of_lock`); a cost that is refused is all
  that keeps one from being made (`Envelope.lock_error`).
-/
namespace Proofing

theorem KeyCost.reads (c : KeyCost) : record.Reads
    [("memory_kib", some (Coded.encode c.memory)), ("iterations", some (Coded.encode c.passes)),
      ("parallelism", some (Coded.encode c.lanes))] c :=
  (((Record.reads_field _ c.memory).map Crypto.Argon2id.Cost.mk).seq
    (Record.reads_field _ c.passes)).seq (Record.reads_field _ c.lanes)

instance : Coded.Lawful KeyCost where
  decode_encode c := (KeyCost.reads c).decode_ofMembers (by simp) _
  encode_ne_null _ h := by cases h

namespace Envelope

theorem reads (e : Envelope) : record.Reads
    [("version", some (Coded.encode e.version)), ("cipher", some (Coded.encode e.cipher)),
      ("kdf", some (Coded.encode e.derivation)), ("kdf_params", some (Coded.encode e.cost)),
      ("salt", some (Coded.encode e.salt)), ("nonce", some (Coded.encode e.nonce)),
      ("ciphertext", some (Coded.encode e.ciphertext))] e :=
  (((((((Record.reads_field _ e.version).map Envelope.mk).seq (Record.reads_field _ e.cipher)).seq
    (Record.reads_field _ e.derivation)).seq (Record.reads_field _ e.cost)).seq
    (Record.reads_field _ e.salt)).seq (Record.reads_field _ e.nonce)).seq
    (Record.reads_field _ e.ciphertext)

end Envelope

instance : Coded.Lawful Envelope where
  decode_encode e := e.reads.decode_ofMembers (by simp) _
  encode_ne_null _ h := by cases h

theorem KeyCost.legible (c : KeyCost) (depth : Nat) : (Coded.encode c).Legible (depth + 1) := by
  refine Json.legible_ofMembers ?_
  simp only [List.forall_mem_cons, List.not_mem_nil, false_implies, implies_true, and_true]
  exact ⟨Json.legible_word32 _ _, Json.legible_word32 _ _, Json.legible_word32 _ _⟩

namespace Envelope

theorem legible (e : Envelope) (depth : Nat) : (Coded.encode e).Legible (depth + 2) := by
  refine Json.legible_ofMembers ?_
  simp only [List.forall_mem_cons, List.not_mem_nil, false_implies, implies_true, and_true]
  exact ⟨Json.legible_word32 _ _, Json.legible_str _ _, Json.legible_str _ _, e.cost.legible depth,
    Json.legible_str _ _, Json.legible_str _ _, Json.legible_str _ _⟩

/-- The text of the JSON form is read as that form. -/
theorem parse?_encode (e : Envelope) :
    Json.parse? (Json.compact (Coded.encode e)) = some (Coded.encode e) :=
  Json.parse?_compact (e.legible 125)

/-- A cost that is refused is the reason why nothing is sealed. -/
theorem lock_error {cost : KeyCost} {e : Crypto.Argon2id.Error} (h : cost.check = .error e)
    (pii : Pii) (password : Password) (draw : Draw) :
    lock pii password cost draw = .error (.noKey e) := by
  simp [lock, key, Crypto.Argon2id.hash, h, Except.mapError, bind, Except.bind]

/-- The envelope gives the data under the password, also when it was written as JSON, a value or a
    text, and read again. -/
structure Opens (e : Envelope) (password : Password) (pii : Pii) : Prop where
  unlock : e.unlock password = .ok pii
  decoded : ∃ e' : Envelope, Coded.decode (Coded.encode e) = .ok e' ∧ e'.unlock password = .ok pii
  read : ∃ (j : Json) (e' : Envelope), Json.parse? (Json.compact (Coded.encode e)) = some j ∧
    Coded.decode j = .ok e' ∧ e'.unlock password = .ok pii

theorem opens_of_lock {pii : Pii} {password : Password} {cost : KeyCost} {draw : Draw}
    {e : Envelope} (h : lock pii password cost draw = .ok e) : e.Opens password pii where
  unlock := unlock_lock h
  decoded := ⟨e, Coded.decode_encode e, unlock_lock h⟩
  read := ⟨_, e, e.parse?_encode, Coded.decode_encode e, unlock_lock h⟩

end Envelope

end Proofing
