import Proofing.Profile.Status
import Proofing.Proofs.Sealing
/-
  Proofing — profiles as they are written and read.

  * `Profile.decode_encode`: what is written of a profile is read as that profile
    without its personal key, from the value and from its text (`parse?_encode`);
  * `Profile.encode_eq_iff`: two profiles are written alike if and only if they
    differ in nothing but the key;
  * `Profile.Rereads` says what a profile and what is read of it have in common:
    status, holds and activity among it; `loses_personalKey` puts all together.
-/
namespace Proofing

instance : Coded.Lawful UserId :=
  .part UserId.mk UserId.uuid (fun _ => rfl) (fun _ => rfl) fun _ => rfl

instance : Coded.Lawful IdempotencyKey :=
  .part IdempotencyKey.mk IdempotencyKey.text (fun _ => rfl) (fun _ => rfl) fun _ => rfl

instance : Coded.Lawful FraudHold :=
  Variants.lawful fun h => by cases h <;> rfl

theorem ServiceProvider.reads (p : ServiceProvider) :
    record.Reads [("issuer", some (Coded.encode p.issuer))] p :=
  (Record.reads_field _ p.issuer).map ServiceProvider.mk

instance : Coded.Lawful ServiceProvider where
  decode_encode p := p.reads.decode_ofMembers (by simp) _
  encode_ne_null _ h := by cases h

theorem ServiceProvider.legible (p : ServiceProvider) (depth : Nat) :
    (Coded.encode p).Legible (depth + 1) :=
  Json.legible_ofMembers (by simpa using Json.legible_str depth p.issuer)

namespace Profile

/-! ## From the value and from the text -/

theorem reads (p : Profile) :
    record.Reads (p.members.map fun m => (m.1, some m.2)) p.withoutKey :=
  ((((((((((((Record.reads_field _ p.id).map _).seq (Record.reads_field _ p.user)).seq
    (Record.reads_optional _ p.provider)).seq (Record.reads_field _ p.pii)).seq
    (Record.reads_field _ p.recovery)).seq (Record.reads_field _ p.key)).seq
    (Record.reads_optional _ p.fraud)).seq (Record.reads_optional _ p.letterSince)).seq
    (Record.reads_optional _ p.visitSince)).seq (Record.reads_field _ p.active)).seq
    (Record.reads_optional _ p.activatedAt)).seq (Record.reads_field _ p.createdAt)

/-- What is written of a profile is read as the profile without its personal key. -/
theorem decode_encode (p : Profile) : Coded.decode (Coded.encode p) = .ok p.withoutKey :=
  p.reads.decode_ofMembers (by simp [members]) "Profile"

theorem legible (p : Profile) (depth : Nat) : (Coded.encode p).Legible (depth + 3) := by
  have timestamp (t : Timestamp) : (Coded.encode t).Legible (depth + 2) := Json.legible_word64 _ _
  have fraud (h : FraudHold) : (Coded.encode h).Legible (depth + 2) := Json.legible_str _ _
  refine Json.legible_ofMembers ?_
  simp only [members, List.forall_mem_cons, List.not_mem_nil, false_implies, implies_true, and_true]
  exact ⟨Json.legible_word64 _ _, Json.legible_str _ _,
    Json.legible_option (fun sp => sp.legible _) _, p.pii.legible _, p.recovery.legible _,
    Json.legible_str _ _, Json.legible_option fraud _, Json.legible_option timestamp _,
    Json.legible_option timestamp _, Json.legible_bool _ _, Json.legible_option timestamp _,
    timestamp _⟩

theorem parse?_encode (p : Profile) :
    Json.parse? (Json.compact (Coded.encode p)) = some (Coded.encode p) :=
  Json.parse?_compact (p.legible 124)

/-! ## The personal key -/

/-- The personal key is not written. -/
theorem encode_withoutKey (p : Profile) : Coded.encode p.withoutKey = Coded.encode p := rfl

/-- Profiles are written alike if they differ in their personal key alone, and only then. -/
theorem encode_eq_iff {p q : Profile} :
    Coded.encode p = Coded.encode q ↔ p.withoutKey = q.withoutKey := by
  constructor
  · intro h
    have hpq : (.ok p.withoutKey : Except DecodeError Profile) = .ok q.withoutKey := by
      rw [← decode_encode p, h, decode_encode]
    exact Except.ok.inj hpq
  · intro h
    rw [← encode_withoutKey p, h, encode_withoutKey]

/-- Neither the status of a profile nor what holds it back depends on the personal key. -/
theorem status_withoutKey (p : Profile) : Status.of p.withoutKey = Status.of p := rfl

/-- A profile `q` is what is read where the profile `p` was written. -/
structure Rereads (p q : Profile) : Prop where
  decoded : Coded.decode (Coded.encode p) = .ok q
  parsed : ∃ j, Json.parse? (Json.compact (Coded.encode p)) = some j ∧ Coded.decode j = .ok q
  /-- The personal key is lost. -/
  personalKey : q.personalKey = none
  /-- Everything else is there. -/
  rest : { q with personalKey := p.personalKey } = p
  /-- It is written as before. -/
  encoded : Coded.encode q = Coded.encode p
  status : Status.of q = Status.of p
  holds : q.holds = p.holds
  active : q.active = p.active

theorem rereads_withoutKey (p : Profile) : p.Rereads p.withoutKey where
  decoded := p.decode_encode
  parsed := ⟨_, p.parse?_encode, p.decode_encode⟩
  personalKey := rfl
  rest := rfl
  encoded := p.encode_withoutKey
  status := p.status_withoutKey
  holds := rfl
  active := rfl

/-- The object of a profile has no member with the name of a personal key. -/
theorem unnamed_personalKey (p : Profile) :
    ∃ ms, Coded.encode p = .obj ms ∧ "personal_key" ∉ ms.map (·.1) := by
  refine ⟨_, rfl, fun h => ?_⟩
  obtain ⟨m, hm, hname⟩ := List.mem_map.1 h
  have named : m.1 ∈ p.members.map (·.1) := List.mem_map_of_mem (Members.mem_of_mem_ofList hm)
  rw [hname] at named
  simp [members] at named

/-- **Writing a profile loses its personal key and nothing else**: it is read as the profile without
    the key, from which all else follows as before, and profiles with different keys are written
    alike. -/
theorem loses_personalKey (p : Profile) :
    (∃ q, p.Rereads q) ∧
      (∀ q : Profile, Coded.encode q = Coded.encode p ↔ q.withoutKey = p.withoutKey) ∧
      (∀ key, Coded.encode { p with personalKey := key } = Coded.encode p) ∧
      ∃ ms, Coded.encode p = .obj ms ∧ "personal_key" ∉ ms.map (·.1) :=
  ⟨⟨_, p.rereads_withoutKey⟩, fun _ => encode_eq_iff, fun _ => encode_eq_iff.2 rfl,
    p.unnamed_personalKey⟩

end Profile

end Proofing
