import Proofing.Proofs.Hex
import Proofing.Proofs.Sealing
/-
  Proofing — what becomes of an envelope that is opened.

  An envelope that comes out of a store may hold anything.

  * `Argon2id.exists_hash_iff`: from which cost and salt a key can be derived
    (`Takes`); it has the size that was asked for (`length_hash`);
  * `Envelope.Refused` lists the defects in the order in which they are looked for,
    each of them with what is sound before it, and `Envelope.Yields` says what is
    in an envelope without one;
  * `unlockVia` opens an envelope with any cipher, in any monad: the cipher is used
    with keys of 32 octets and nonces of 12 octets alone (`unlockVia_eq`);
  * `unlock_classified` puts it together.
-/
namespace Proofing

/-! ## Keys -/

namespace Crypto.Blake2b

theorem length_compress {chain : List UInt64} (h : chain.length = 8) (block : List UInt8)
    (count : Nat) (last : Bool) : (compress chain block count last).length = 8 := by
  simp [compress, h, Words.toList]

theorem length_absorb {chain : List UInt64} (h : chain.length = 8) (count : Nat)
    (message : List UInt8) : (absorb chain count message).length = 8 := by
  fun_induction absorb chain count message with
  | case1 chain count message _ ih => exact ih (length_compress h ..)
  | case2 => exact length_compress h ..

/-- A hash has the size that was asked for. -/
theorem length_hash {size : Nat} (h : size ≤ 64) (message : List UInt8) :
    (hash size message).length = size := by
  have hoctets (ws : List UInt64) : (ws.flatMap octets).length = 8 * ws.length := by
    induction ws with
    | nil => rfl
    | cons w ws ih => simp [ih, octets]; omega
  rw [hash, List.length_take, hoctets, length_absorb rfl]
  omega

end Crypto.Blake2b

namespace Crypto.Argon2id

/-- A key can be derived at a cost with a salt. -/
structure Takes (c : Cost) (salt : List UInt8) : Prop where
  /-- Eight blocks of memory for each lane. -/
  memory : 8 * c.lanes.toNat ≤ c.memory.toNat
  passes : 1 ≤ c.passes.toNat
  someLanes : 1 ≤ c.lanes.toNat
  fewLanes : c.lanes.toNat < 2 ^ 24
  salt : 8 ≤ salt.length

/-- Where eight times the number of lanes exceeds 32 bits, there are too many of them anyway. -/
theorem Cost.check_eq_ok_iff {c : Cost} : c.check = .ok () ↔
    8 * c.lanes.toNat ≤ c.memory.toNat ∧ 1 ≤ c.passes.toNat ∧ 1 ≤ c.lanes.toNat ∧
      c.lanes.toNat < 2 ^ 24 := by
  have hsum : (8 * c.lanes).toNat = 8 * c.lanes.toNat % 2 ^ 32 := UInt32.toNat_mul 8 c.lanes
  simp only [check, UInt32.lt_iff_toNat_lt, hsum]
  have h8 : (8 : UInt32).toNat = 8 := rfl
  have h1 : (1 : UInt32).toNat = 1 := rfl
  have hmax : (0xFFFFFF : UInt32).toNat = 0xFFFFFF := rfl
  rw [h8, h1, hmax]
  split
  · simp; omega
  · split
    · simp; omega
    · split
      · simp; omega
      · split
        · simp; omega
        · simp; omega

variable {c : Cost} {size : Nat} {password salt : List UInt8}

theorem takes_iff : Takes c salt ↔ c.check = .ok () ∧ 8 ≤ salt.length := by
  rw [Cost.check_eq_ok_iff]
  constructor
  · exact fun h => ⟨⟨h.memory, h.passes, h.someLanes, h.fewLanes⟩, h.salt⟩
  · exact fun ⟨⟨memory, passes, someLanes, fewLanes⟩, salt⟩ =>
      ⟨memory, passes, someLanes, fewLanes, salt⟩

/-- A key is derived where the cost and the salt allow it. -/
theorem exists_hash_iff : (∃ k, hash c size password salt = .ok k) ↔ Takes c salt := by
  rw [takes_iff]
  constructor
  · rintro ⟨k, hk⟩
    cases hcheck : c.check with
    | error e => simp [hash, hcheck, bind, Except.bind] at hk
    | ok =>
      refine ⟨rfl, Nat.le_of_not_lt fun hsalt => ?_⟩
      simp [hash, hcheck, hsalt, bind, Except.bind, throw, throwThe, MonadExceptOf.throw] at hk
  · rintro ⟨hcheck, hsalt⟩
    exact hash_ok hcheck size password hsalt

/-- A key has the size that was asked for. -/
theorem length_hash (hsize : size ≤ 64) {k : List UInt8} (h : hash c size password salt = .ok k) :
    k.length = size := by
  obtain ⟨hcheck, hlong⟩ := takes_iff.1 (exists_hash_iff.1 ⟨k, h⟩)
  have hsalt : ¬ salt.length < 8 := Nat.not_lt.2 hlong
  simp only [hash, hcheck, bind, Except.bind, if_neg hsalt, pure, Except.pure, Except.ok.injEq] at h
  rw [← h, longHash, if_pos hsize]
  exact Blake2b.length_hash hsize _

end Crypto.Argon2id

namespace Envelope
open Crypto (Argon2id.Takes)

/-! ## What an envelope comes to -/

/-- The octets that an envelope of the current version holds. -/
structure Spells (e : Envelope) (salt nonce ciphertext : List UInt8) : Prop where
  version : e.version = currentVersion
  salt : Text.lower e.salt.toList = Hex.encodeChars salt
  nonce : Text.lower e.nonce.toList = Hex.encodeChars nonce
  ciphertext : Text.lower e.ciphertext.toList = Hex.encodeChars ciphertext

/-- A key is derived for an envelope, from the salt in it. -/
structure Derives (e : Envelope) (password : Password) (salt key : List UInt8) : Prop where
  takes : Argon2id.Takes e.cost salt
  hash : Crypto.Argon2id.hash e.cost keySize (Text.octets password.text) salt = .ok key

/-- What an envelope comes to under a password: the first defect of it, in the order in which they
    stand here, or the personal data in it. -/
inductive ComesTo (e : Envelope) (password : Password) : Except EnvelopeError Pii → Prop
  | version (h : e.version ≠ currentVersion) : ComesTo e password (.error (.version e.version))
  | salt {err} (version : e.version = currentVersion) (h : Hex.Faulty e.salt err) :
    ComesTo e password (.error (.badHex .salt err))
  | nonce {salt err} (version : e.version = currentVersion)
    (hsalt : Text.lower e.salt.toList = Hex.encodeChars salt) (h : Hex.Faulty e.nonce err) :
    ComesTo e password (.error (.badHex .nonce err))
  | ciphertext {salt nonce err} (version : e.version = currentVersion)
    (hsalt : Text.lower e.salt.toList = Hex.encodeChars salt)
    (hnonce : Text.lower e.nonce.toList = Hex.encodeChars nonce) (h : Hex.Faulty e.ciphertext err) :
    ComesTo e password (.error (.badHex .ciphertext err))
  | nonceLength {salt nonce ciphertext} (spells : e.Spells salt nonce ciphertext)
    (h : nonce.length ≠ nonceSize) : ComesTo e password (.error (.nonceLength nonce.length))
  | noKey {salt nonce ciphertext err} (spells : e.Spells salt nonce ciphertext)
    (size : nonce.length = nonceSize) (takes : ¬ Argon2id.Takes e.cost salt)
    (h : Crypto.Argon2id.hash e.cost keySize (Text.octets password.text) salt = .error err) :
    ComesTo e password (.error (.noKey err))
  | notAuthentic {salt nonce ciphertext key} (spells : e.Spells salt nonce ciphertext)
    (size : nonce.length = nonceSize) (derives : e.Derives password salt key)
    (h : Crypto.Gcm.decrypt? key nonce ciphertext = none) :
    ComesTo e password (.error .notAuthentic)
  | notPii {salt nonce ciphertext key text} (spells : e.Spells salt nonce ciphertext)
    (size : nonce.length = nonceSize) (derives : e.Derives password salt key)
    (opens : Crypto.Gcm.decrypt? key nonce ciphertext = some text)
    (h : Pii.ofSource? (.ofOctets text) = none) : ComesTo e password (.error .notPii)
  | opened {salt nonce ciphertext key text pii} (spells : e.Spells salt nonce ciphertext)
    (size : nonce.length = nonceSize) (derives : e.Derives password salt key)
    (opens : Crypto.Gcm.decrypt? key nonce ciphertext = some text)
    (h : Pii.ofSource? (.ofOctets text) = some pii) : ComesTo e password (.ok pii)

variable {e : Envelope} {password : Password} {r : Except EnvelopeError Pii}

theorem octets_eq_ok {part : EnvelopePart} {digits : String} {bs : List UInt8}
    (h : Text.lower digits.toList = Hex.encodeChars bs) : octets part digits = .ok bs := by
  rw [octets, Hex.decode_eq_ok_iff.2 h]
  rfl

theorem octets_eq_error {part : EnvelopePart} {digits : String} {err : Hex.Error}
    (h : Hex.Faulty digits err) : octets part digits = .error (.badHex part err) := by
  rw [octets, Hex.decode_eq_error_iff.2 h]
  rfl

/-- What the ciphertext comes to under a key. -/
def reveal (nonce ciphertext key : List UInt8) : Except EnvelopeError Pii :=
  match Crypto.Gcm.decrypt? key nonce ciphertext with
  | none => .error .notAuthentic
  | some text =>
    match Pii.ofSource? (.ofOctets text) with
    | none => .error .notPii
    | some pii => .ok pii

theorem Spells.unlock_eq {salt nonce ciphertext : List UInt8} (h : e.Spells salt nonce ciphertext)
    (size : nonce.length = nonceSize) :
    e.unlock password = (key e.cost password salt).bind (reveal nonce ciphertext) := by
  simp only [unlock, octets_eq_ok h.salt, octets_eq_ok h.nonce, octets_eq_ok h.ciphertext,
    h.version, size, bind, Except.bind, ne_eq, not_true_eq_false, if_false]
  rfl

theorem Derives.key_eq {salt k : List UInt8} (h : e.Derives password salt k) :
    key e.cost password salt = .ok k := by
  rw [key, h.hash]
  rfl

theorem unlock_of_comesTo (h : e.ComesTo password r) : e.unlock password = r := by
  cases h with
  | version h => simp only [unlock, if_pos h]; rfl
  | salt version h =>
    simp only [unlock, if_neg (not_not.2 version), octets_eq_error h]; rfl
  | nonce version hsalt h =>
    simp only [unlock, if_neg (not_not.2 version), octets_eq_ok hsalt, octets_eq_error h]; rfl
  | ciphertext version hsalt hnonce h =>
    simp only [unlock, if_neg (not_not.2 version), octets_eq_ok hsalt, octets_eq_ok hnonce,
      octets_eq_error h]; rfl
  | nonceLength spells h =>
    simp only [unlock, if_neg (not_not.2 spells.version), octets_eq_ok spells.salt,
      octets_eq_ok spells.nonce, octets_eq_ok spells.ciphertext, bind, Except.bind, if_pos h]; rfl
  | noKey spells size takes h => rw [spells.unlock_eq size, key, h]; rfl
  | notAuthentic spells size derives h =>
    simp only [spells.unlock_eq size, derives.key_eq, Except.bind, reveal, h]
  | notPii spells size derives opens h =>
    simp only [spells.unlock_eq size, derives.key_eq, Except.bind, reveal, opens, h]
  | opened spells size derives opens h =>
    simp only [spells.unlock_eq size, derives.key_eq, Except.bind, reveal, opens, h]

/-! ## Opening with any cipher -/

/-- Opens an envelope with a cipher that may do more than to decrypt. -/
def unlockVia {m : Type → Type} [Monad m]
    (decrypt? : List UInt8 → List UInt8 → List UInt8 → m (Option (List UInt8))) (e : Envelope)
    (password : Password) : ExceptT EnvelopeError m Pii := do
  if e.version ≠ currentVersion then throw (.version e.version)
  let salt ← MonadExcept.ofExcept (octets .salt e.salt)
  let nonce ← MonadExcept.ofExcept (octets .nonce e.nonce)
  let ciphertext ← MonadExcept.ofExcept (octets .ciphertext e.ciphertext)
  if nonce.length ≠ nonceSize then throw (.nonceLength nonce.length)
  let k ← MonadExcept.ofExcept (key e.cost password salt)
  match ← decrypt? k nonce ciphertext with
  | none => throw .notAuthentic
  | some text =>
    match Pii.ofSource? (.ofOctets text) with
    | none => throw .notPii
    | some pii => return pii

theorem octets_cases (part : EnvelopePart) (digits : String) :
    (∃ err, Hex.Faulty digits err ∧ octets part digits = .error (.badHex part err)) ∨
      ∃ bs, Text.lower digits.toList = Hex.encodeChars bs ∧ octets part digits = .ok bs := by
  cases h : Hex.decode digits with
  | error err =>
    have bad := Hex.decode_eq_error_iff.1 h
    exact .inl ⟨err, bad, octets_eq_error bad⟩
  | ok bs =>
    have good := Hex.decode_eq_ok_iff.1 h
    exact .inr ⟨bs, good, octets_eq_ok good⟩

/-- Whatever else a cipher does with keys and nonces of other sizes, an envelope comes to the
    same. -/
theorem exists_unlockVia_eq {m : Type → Type} [Monad m] [LawfulMonad m]
    {decrypt? : List UInt8 → List UInt8 → List UInt8 → m (Option (List UInt8))}
    (h : ∀ k nonce secret, k.length = keySize → nonce.length = nonceSize →
      decrypt? k nonce secret = pure (Crypto.Gcm.decrypt? k nonce secret))
    (e : Envelope) (password : Password) :
    ∃ r, (e.unlockVia decrypt? password).run = pure r ∧ e.ComesTo password r := by
  by_cases version : e.version = currentVersion
  case neg => exact ⟨_, by simp [unlockVia, version], .version version⟩
  rcases octets_cases .salt e.salt with ⟨err, bad, hs⟩ | ⟨salt, hsalt, hs⟩
  · exact ⟨_, by simp [unlockVia, version, hs, MonadExcept.ofExcept], .salt version bad⟩
  rcases octets_cases .nonce e.nonce with ⟨err, bad, hn⟩ | ⟨nonce, hnonce, hn⟩
  · exact ⟨_, by simp [unlockVia, version, hs, hn, MonadExcept.ofExcept],
      .nonce version hsalt bad⟩
  rcases octets_cases .ciphertext e.ciphertext with ⟨err, bad, hc⟩ | ⟨ciphertext, hciphertext, hc⟩
  · exact ⟨_, by simp [unlockVia, version, hs, hn, hc, MonadExcept.ofExcept],
      .ciphertext version hsalt hnonce bad⟩
  have spells : e.Spells salt nonce ciphertext := ⟨version, hsalt, hnonce, hciphertext⟩
  by_cases size : nonce.length = nonceSize
  case neg =>
    exact ⟨_, by simp [unlockVia, version, hs, hn, hc, size, MonadExcept.ofExcept],
      .nonceLength spells size⟩
  cases hash : Crypto.Argon2id.hash e.cost keySize (Text.octets password.text) salt with
  | error err =>
    have takes : ¬ Argon2id.Takes e.cost salt := fun takes => by
      obtain ⟨k, hk⟩ := Crypto.Argon2id.exists_hash_iff.2 takes
      exact nomatch hk.symm.trans hash
    exact ⟨_, by simp [unlockVia, version, hs, hn, hc, size, key, hash, Except.mapError,
      MonadExcept.ofExcept], .noKey spells size takes hash⟩
  | ok k =>
    have derives : e.Derives password salt k :=
      ⟨Crypto.Argon2id.exists_hash_iff.1 ⟨k, hash⟩, hash⟩
    have opens := h k nonce ciphertext (Crypto.Argon2id.length_hash (by decide) hash) size
    cases htext : Crypto.Gcm.decrypt? k nonce ciphertext with
    | none =>
      exact ⟨_, by simp [unlockVia, version, hs, hn, hc, size, derives.key_eq, opens, htext,
        MonadExcept.ofExcept], .notAuthentic spells size derives htext⟩
    | some text =>
      cases hpii : Pii.ofSource? (.ofOctets text) with
      | none =>
        exact ⟨_, by simp [unlockVia, version, hs, hn, hc, size, derives.key_eq, opens, htext, hpii,
          MonadExcept.ofExcept], .notPii spells size derives htext hpii⟩
      | some pii =>
        exact ⟨_, by simp [unlockVia, version, hs, hn, hc, size, derives.key_eq, opens, htext, hpii,
          MonadExcept.ofExcept], .opened spells size derives htext hpii⟩

/-- An envelope comes to what the first of its defects says, or to the data in it. -/
theorem unlock_eq_iff : e.unlock password = r ↔ e.ComesTo password r := by
  obtain ⟨r', -, h⟩ := exists_unlockVia_eq (m := Id) (fun _ _ _ _ _ => rfl) e password
  exact ⟨fun hr => hr ▸ (unlock_of_comesTo h).symm ▸ h, unlock_of_comesTo⟩

theorem unlockVia_eq {m : Type → Type} [Monad m] [LawfulMonad m]
    {decrypt? : List UInt8 → List UInt8 → List UInt8 → m (Option (List UInt8))}
    (h : ∀ k nonce secret, k.length = keySize → nonce.length = nonceSize →
      decrypt? k nonce secret = pure (Crypto.Gcm.decrypt? k nonce secret))
    (e : Envelope) (password : Password) :
    (e.unlockVia decrypt? password).run = pure (e.unlock password) := by
  obtain ⟨r, hrun, hr⟩ := exists_unlockVia_eq h e password
  rw [hrun, unlock_of_comesTo hr]

/-- A cipher that is set up for keys of 32 octets and nonces of twelve; with any other, all comes to
    a halt. -/
def strict? (k nonce secret : List UInt8) : Option (Option (List UInt8)) :=
  if k.length = keySize ∧ nonce.length = nonceSize then some (Crypto.Gcm.decrypt? k nonce secret)
  else none

/-- What opening an envelope comes to, whatever it holds. -/
structure Classified (e : Envelope) (password : Password) : Prop where
  /-- The first defect decides, and without one the data comes out. -/
  outcome : ∀ r, e.unlock password = r ↔ e.ComesTo password r
  /-- With a cipher that does nothing but to decrypt, opening is opening. -/
  plain : (e.unlockVia (fun k n c => (pure (Crypto.Gcm.decrypt? k n c) : Id _)) password).run =
    e.unlock password
  /-- No envelope brings a strict cipher to a halt. -/
  strict : (e.unlockVia strict? password).run = some (e.unlock password)
  /-- The names of cipher and derivation do not matter. -/
  names : ∀ cipher derivation,
    { e with cipher := cipher, derivation := derivation }.unlock password = e.unlock password

/-- **Every envelope is opened or refused for its first defect**, and none gets to the cipher with a
    key or a nonce of another size than it takes. -/
theorem unlock_classified (e : Envelope) (password : Password) : e.Classified password where
  outcome _ := unlock_eq_iff
  plain := unlockVia_eq (m := Id) (fun _ _ _ _ _ => rfl) e password
  strict := unlockVia_eq (fun _ _ _ hk hn => if_pos ⟨hk, hn⟩) e password
  names _ _ := rfl

/-- Of several defects, the one that is looked for first is told. -/
example : unlock ⟨1, "", "", .light, "0g", "", "é"⟩ ⟨"pw"⟩ =
    .error (.badHex .salt (.badDigit 103 1)) := by
  decide +kernel

end Envelope

end Proofing
