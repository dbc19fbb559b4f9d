import Mathlib.Data.List.Basic
import Mathlib.Tactic.Common
import Proofing.Idempotency
/-
  Proofing — which runs of the flow have the same key.

  * `octets_eq_iff`: what is hashed tells two runs apart, unless one of them
    `Mimics` the other: the separators are zero octets, which the name of a
    session and a nonce may contain as well;
  * `key_eq_iff_hash_eq`: two runs share a key if and only if what is hashed is
    the same or the hash has a collision there;
  * `same_key_iff` puts them together, and `key_ne_of_session` is what is left of
    them in one session, where no run mimics another.

  That the hash has no collision at all would be a false assumption; `Collide`
  speaks of two messages.
-/
namespace Proofing

theorem Text.octets_inj {s t : String} (h : octets s = octets t) : s = t := by
  have hbytes : s.toUTF8 = t.toUTF8 := by
    rw [octets, octets, Array.toList_inj] at h
    exact ByteArray.ext h
  rwa [String.toUTF8_eq_toByteArray, String.toUTF8_eq_toByteArray, String.toByteArray_inj] at hbytes

theorem Uuid.octets_inj {u v : Uuid} (h : u.octets = v.octets) : u = v := by
  cases u; cases v; cases h; rfl

/-- A message of a single block is mixed in at once. -/
theorem Crypto.Blake2b.hash_of_le {size : Nat} {m : List UInt8} (h : m.length ≤ blockSize) :
    hash size m = ((compress (initial.zipWith (· ^^^ ·)
      [0x01010000 ^^^ UInt64.ofNat size, 0, 0, 0, 0, 0, 0, 0]) m (0 + m.length) true).flatMap
        octets).take size := by
  rw [hash, absorb, if_neg (Nat.not_lt.2 h)]

namespace IdempotencyKey

/-- Two messages are different but have the same hash. -/
def Collide (m m' : List UInt8) : Prop :=
  m ≠ m' ∧ Crypto.Blake2b.hash size m = Crypto.Blake2b.hash size m'

/-- A run of the flow, as far as its key goes. -/
structure Origin where
  session : SessionId
  flow : Option Uuid
  user : UserId
  deriving DecidableEq

namespace Origin
variable {a b : Origin}

/-- What is hashed. -/
def octets (a : Origin) : List UInt8 :=
  preimage a.session a.flow a.user

/-- The key. -/
def key (a : Origin) : IdempotencyKey :=
  derive a.session a.flow a.user

/-- A run without a nonce in a session whose name is that of the other run's session, a zero octet
    and the other run's nonce up to its last octet; that octet is the separator before the user. -/
def Mimics (a b : Origin) : Prop :=
  a.user = b.user ∧ a.flow = none ∧ ∃ n, b.flow = some n ∧ n.octets.getLast? = some 0 ∧
    Text.octets a.session.text = Text.octets b.session.text ++ 0 :: n.octets.dropLast

/-! ## What is hashed -/

/-- What is hashed between the domain and the last separator. -/
def body (a : Origin) : List UInt8 :=
  Text.octets a.session.text ++ 0 :: (a.flow.map Uuid.octets).getD []

theorem octets_eq_append (a : Origin) :
    a.octets = Text.octets domain ++ (a.body ++ 0 :: a.user.uuid.octets) := by
  simp [octets, preimage, body]

/-- The user stands at the end and has a fixed size, so it is always told apart. -/
theorem octets_eq_iff_body : a.octets = b.octets ↔ a.body = b.body ∧ a.user = b.user := by
  rw [octets_eq_append, octets_eq_append, List.append_right_inj]
  constructor
  · intro h
    obtain ⟨hbody, huser⟩ := List.append_inj' h (by
      rw [List.length_cons, List.length_cons, a.user.uuid.size, b.user.uuid.size])
    have hu : a.user.uuid = b.user.uuid := Uuid.octets_inj (List.cons.inj huser).2
    exact ⟨hbody, congrArg UserId.mk hu⟩
  · rintro ⟨hbody, huser⟩
    rw [hbody, huser]

/-- Without nonces, and with two of them, the name of the session is what is left. -/
theorem body_eq_iff_of_isSome (h : a.flow.isSome = b.flow.isSome) :
    a.body = b.body ↔ a.session = b.session ∧ a.flow = b.flow := by
  constructor
  · intro hbody
    have hsize : (0 :: (a.flow.map Uuid.octets).getD [] : List UInt8).length =
        (0 :: (b.flow.map Uuid.octets).getD []).length := by
      cases ha : a.flow <;> cases hb : b.flow <;> simp_all [Uuid.size]
    obtain ⟨hsession, hflow⟩ := List.append_inj' hbody hsize
    refine ⟨congrArg SessionId.mk (Text.octets_inj hsession), ?_⟩
    cases ha : a.flow with
    | none => rw [ha] at h; exact (Option.isNone_iff_eq_none.1 (by simpa using h.symm)).symm
    | some n =>
      obtain ⟨m, hb⟩ := Option.isSome_iff_exists.1 (h.symm.trans (by rw [ha]; rfl))
      rw [ha, hb] at hflow
      rw [hb, Uuid.octets_inj (List.cons.inj hflow).2]
  · rintro ⟨hsession, hflow⟩
    rw [body, hsession, hflow, body]

/-- A name can take in the nonce of another run if the nonce ends in the separator. -/
theorem body_eq_iff_of_none {n : Uuid} (ha : a.flow = none) (hb : b.flow = some n) :
    a.body = b.body ↔ n.octets.getLast? = some 0 ∧
      Text.octets a.session.text = Text.octets b.session.text ++ 0 :: n.octets.dropLast := by
  have hbody : a.body = Text.octets a.session.text ++ [0] := by rw [body, ha]; rfl
  have hbody' : b.body = (Text.octets b.session.text ++ [0]) ++ n.octets := by
    rw [body, hb, List.append_assoc]; rfl
  have hne : n.octets ≠ [] := List.ne_nil_of_length_eq_add_one n.size
  rw [hbody, hbody']
  constructor
  · intro h
    rw [← List.dropLast_append_getLast hne, ← List.append_assoc] at h
    obtain ⟨hname, hlast⟩ := List.append_inj' h rfl
    rw [List.getLast?_eq_some_getLast hne, ← (List.cons.inj hlast).1]
    exact ⟨rfl, by simpa using hname⟩
  · rintro ⟨hlast, hname⟩
    obtain ⟨front, hfront⟩ := List.getLast?_eq_some_iff.1 hlast
    rw [hname, hfront]
    simp

/-- What is hashed tells two runs apart, unless one of them mimics the other. -/
theorem octets_eq_iff : a.octets = b.octets ↔ a = b ∨ a.Mimics b ∨ b.Mimics a := by
  rw [octets_eq_iff_body]
  have hext : a = b ↔ a.session = b.session ∧ a.flow = b.flow ∧ a.user = b.user := by
    cases a; cases b; simp
  rw [hext]
  unfold Mimics
  cases ha : a.flow with
  | none =>
    cases hb : b.flow with
    | none => rw [body_eq_iff_of_isSome (by rw [ha, hb])]; simp [ha, hb]
    | some n => rw [body_eq_iff_of_none ha hb]; simp; tauto
  | some n =>
    cases hb : b.flow with
    | none => rw [eq_comm, body_eq_iff_of_none hb ha]; simp; tauto
    | some m => rw [body_eq_iff_of_isSome (by rw [ha, hb]; rfl)]; simp [ha, hb, and_assoc]

/-- Names without zero octets leave no room for a nonce. -/
theorem octets_eq_iff_of_not_mem (ha : 0 ∉ Text.octets a.session.text)
    (hb : 0 ∉ Text.octets b.session.text) : a.octets = b.octets ↔ a = b := by
  have apart {c c' : Origin} (h : 0 ∉ Text.octets c.session.text) : ¬ c.Mimics c' := by
    rintro ⟨-, -, n, -, -, hname⟩
    rw [hname] at h
    simp at h
  rw [octets_eq_iff, or_iff_left (not_or.2 ⟨apart ha, apart hb⟩)]

/-- Two runs in one session are told apart: the name that takes in a nonce is the longer one. -/
theorem octets_eq_iff_of_session (h : a.session = b.session) : a.octets = b.octets ↔ a = b := by
  have apart {c c' : Origin} (h : c.session = c'.session) : ¬ c.Mimics c' := by
    rintro ⟨-, -, n, -, -, hname⟩
    rw [h] at hname
    have hsize := congrArg List.length hname
    simp at hsize
  rw [octets_eq_iff, or_iff_left (not_or.2 ⟨apart h, apart h.symm⟩)]

/-! ## Keys -/

theorem key_eq_iff_hash_eq : a.key = b.key ↔
    Crypto.Blake2b.hash size a.octets = Crypto.Blake2b.hash size b.octets := by
  constructor
  · intro h
    have htext := congrArg (fun k : IdempotencyKey => Hex.decode k.text) h
    simpa only [key, derive, Hex.decode_encode, Except.ok.injEq, octets] using htext
  · intro h
    exact congrArg (fun bs => (⟨Hex.encode bs⟩ : IdempotencyKey)) h

theorem key_eq_iff_collide : a.key = b.key ↔ a.octets = b.octets ∨ Collide a.octets b.octets := by
  rw [key_eq_iff_hash_eq]
  constructor
  · intro h
    exact (eq_or_ne _ _).imp_right fun hne => ⟨hne, h⟩
  · rintro (h | h)
    exacts [congrArg _ h, h.2]

/-- Two runs in one session have different keys. -/
theorem key_ne_of_session (h : a.session = b.session) (ne : a ≠ b)
    (apart : ¬ Collide a.octets b.octets) : a.key ≠ b.key := by
  rw [Ne, key_eq_iff_collide, octets_eq_iff_of_session h]
  exact not_or.2 ⟨ne, apart⟩

/-- **Two runs of the flow have one key if they are the same, if one of them mimics the other, or
    if the hash has a collision at what is hashed for them**, and in no other case. -/
theorem same_key_iff (a b : Origin) :
    (a.octets = b.octets ↔ a = b ∨ a.Mimics b ∨ b.Mimics a) ∧
      (a.key = b.key ↔ (a = b ∨ a.Mimics b ∨ b.Mimics a) ∨ Collide a.octets b.octets) := by
  refine ⟨octets_eq_iff, ?_⟩
  rw [← octets_eq_iff]
  exact key_eq_iff_collide

theorem length_zeros : (List.replicate 16 (0 : UInt8)).length = 16 := rfl

/-- A run of a session that was restarted, with the octets of `abcdefGéjklmno` and a zero octet as
    its nonce. -/
def restarted : Origin where
  session := ⟨"s"⟩
  flow := some ⟨[0x61, 0x62, 0x63, 0x64, 0x65, 0x66, 0x47, 0xc3, 0xa9, 0x6a, 0x6b, 0x6c, 0x6d, 0x6e,
    0x6f, 0], rfl⟩
  user := ⟨⟨List.replicate 16 0, length_zeros⟩⟩

/-- A run of another session, which was never restarted. -/
def mimicking : Origin where
  session := ⟨"s\x00abcdefGéjklmno"⟩
  flow := none
  user := restarted.user

theorem same_key_iff_mimicking :
    mimicking.session ≠ restarted.session ∧ mimicking.octets = restarted.octets ∧
      mimicking.key = restarted.key := by
  have hname : Text.octets mimicking.session.text =
      [0x73, 0, 0x61, 0x62, 0x63, 0x64, 0x65, 0x66, 0x47, 0xc3, 0xa9, 0x6a, 0x6b, 0x6c, 0x6d, 0x6e,
        0x6f] := by decide +kernel
  have hmimics : mimicking.Mimics restarted := ⟨rfl, rfl, _, rfl, rfl, hname⟩
  obtain ⟨hoctets, hkey⟩ := same_key_iff mimicking restarted
  exact ⟨by decide, hoctets.2 (.inr (.inl hmimics)), hkey.2 (.inl (.inr (.inl hmimics)))⟩

end Origin
end IdempotencyKey
end Proofing
