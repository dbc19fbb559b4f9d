import Proofing.Proofs.Completion.Ways
import Proofing.Proofs.Sealing
import Proofing.Proofs.Session.Storage
/-
  Proofing — the personal key opens what was sealed with it.

  A draft opens under the password and under its own personal key
  (`Draft.opens_of_make`), and only its cost can keep it from being made.  When
  the profile is committed, the session has the key and the registry has the
  profile, without the key; `KeyAgrees` says that the two fit together for as long
  as the session keeps the key, and that nothing keeps it once the user has seen
  it.
-/
namespace Proofing

/-- The draft gives the applicant, under the password and under its personal key. -/
structure Draft.Opens (draft : Draft) (password : Password) (applicant : Pii) : Prop where
  pii : draft.pii.Opens password applicant
  recovery : draft.recovery.Opens draft.personalKey.password applicant

theorem Draft.opens_of_make {applicant : Pii} {user : UserId} {provider : Option ServiceProvider}
    {cost : KeyCost} {password : Password} {session : SessionId} {flow : Option Uuid}
    {conditions : Conditions} {draw : Draw} {draft : Draft}
    (h : make applicant user provider cost password session flow conditions draw = .ok draft) :
    draft.Opens password applicant := by
  obtain ⟨hpii, hrecovery, hdraft⟩ := make_ok h
  have hkey : draft.personalKey = .draw draw.personalKey := by rw [hdraft]
  refine ⟨Envelope.opens_of_lock hpii, ?_⟩
  rw [hkey]
  exact Envelope.opens_of_lock hrecovery

theorem Draft.make_error {cost : KeyCost} {e : Crypto.Argon2id.Error} (h : cost.check = .error e)
    (applicant : Pii) (user : UserId) (provider : Option ServiceProvider) (password : Password)
    (session : SessionId) (flow : Option Uuid) (conditions : Conditions) (draw : Draw) :
    make applicant user provider cost password session flow conditions draw = .error (.noKey e) := by
  simp [make, Envelope.lock_error h, bind, Except.bind]

/-- A registry keeps no personal keys. -/
theorem Registry.Reachable.keyless {r : Registry} (h : r.Reachable) {p : Profile} (hp : p ∈ r.rows) :
    p.personalKey = none := by
  obtain ⟨now, acts, permitted, few, rfl⟩ := h
  exact (((Traffic.inv_fresh now).run permitted few).1.sound p hp).keyless

namespace Session

theorem held_acknowledgeKey (s : Session) : s.acknowledgeKey.held .personalKey = none :=
  Attributes.held_put_self _ _ _

/-- The stored form of a session that has forgotten its personal key. -/
theorem find?_stored_acknowledgeKey (s : Session) :
    Members.find? "personal_key" s.acknowledgeKey.stored = none := by
  have hentry : ("personal_key", s.acknowledgeKey.attributes.get (.slot .personalKey)) ∈
      s.acknowledgeKey.entries :=
    List.mem_append_left _ (List.mem_map_of_mem (Attribute.mem_all (.slot .personalKey)))
  rw [find?_stored hentry]
  change (s.acknowledgeKey.held .personalKey).map Coded.encode = none
  rw [held_acknowledgeKey]
  rfl

end Session

namespace Completion

/-- The session at a desk, the profile that was made of it and the registry agree on its key. -/
structure KeyAgrees (config : Config) (password : Password) (applicant : Pii) (d : Desk)
    (q : Profile) : Prop where
  profileId : d.session.profileId = some q.id
  found : d.office.registry.find? q.id = some q
  pii : q.pii.Opens password applicant
  /-- The session has the key that opens the profile, whether it was stored and loaded or not, and
      the key may be typed by the user. -/
  key : ∃ k, d.session.held .personalKey = some k ∧
    (∀ web, (Session.load (d.session.store web) config).held .personalKey = some k) ∧
    q.recovery.Opens k.password applicant ∧
    ∀ raw, k.IsTyped raw → ∃ k', PersonalKey.parse raw = .ok k' ∧
      q.recovery.Opens k'.password applicant
  keyless : ∀ p ∈ d.office.registry.rows, p.personalKey = none
  /-- Once the user has seen the key, it is not in what is stored any more. -/
  forgotten : ∀ web, ∃ values,
    (d.session.acknowledgeKey.store web).space? config.sessionSpace = some values ∧
      Members.find? "personal_key" values = none ∧
      (Session.load (d.session.acknowledgeKey.store web) config).held .personalKey = none

section
variable {config : Config} {password : Password} {applicant : Pii} {draw : Draft.Draw} {d : Desk}

theorem keyAgrees_of_recorded {result : Except FlowError Outcome × Desk} {q : Profile}
    (reachable : d.office.registry.Reachable) (under : d.session.Under config)
    (h : Recorded config password draw d result q) (hq : q.personalKey = none)
    (ha : d.session.held .applicant = some applicant) :
    KeyAgrees config password applicant result.2 q := by
  obtain ⟨a, ha', -, hpii, hrecovery⟩ := h.applicant
  obtain rfl : applicant = a := Option.some.inj (ha.symm.trans ha')
  have hunder : result.2.session.Under config := by
    obtain ⟨held, staged, hs⟩ := h.session
    rw [hs]
    exact under.update ..
  have hunder' : result.2.session.acknowledgeKey.Under config :=
    hunder.update ..
  constructor
  case profileId => exact h.profileId
  case found => exact h.found
  case pii => exact Envelope.opens_of_lock hpii
  case key =>
    refine ⟨_, h.personalKey, fun web => ?_, Envelope.opens_of_lock hrecovery, fun raw hraw => ?_⟩
    · rw [Session.load_store_eq hunder]
      exact h.personalKey
    · exact ⟨_, PersonalKey.parse_of_isTyped hraw, Envelope.opens_of_lock hrecovery⟩
  case keyless =>
    intro p hp
    rcases List.mem_cons.1 (h.rows.mem_iff.1 hp) with rfl | hold
    exacts [hq, reachable.keyless hold]
  case forgotten =>
    intro web
    refine ⟨result.2.session.acknowledgeKey.stored, ?_, Session.find?_stored_acknowledgeKey _, ?_⟩
    · rw [Session.store, hunder'.space, WebSession.space?_replace_self]
    · rw [Session.load_store_eq hunder']
      exact Session.held_acknowledgeKey _

end

/-- **The password and the personal key open what was sealed under them**: in a draft, which can be
    made if and only if a key can have the cost, and in a profile that is committed, for which the
    session has the key until the user has seen it. -/
theorem key_agrees (config : Config) (password : Password) (user : UserId)
    (provider : Option ServiceProvider) (draw : Draft.Draw) :
    (∀ (applicant : Pii) (cost : KeyCost) (session : SessionId) (flow : Option Uuid)
      (conditions : Conditions),
      (cost.check = .ok () → ∃ draft, Draft.make applicant user provider cost password session flow
        conditions draw = .ok draft ∧ draft.Opens password applicant) ∧
      ∀ e, cost.check = .error e → Draft.make applicant user provider cost password session flow
        conditions draw = .error (.noKey e)) ∧
    ∀ d : Desk, d.office.registry.Reachable → d.session.Under config →
      let result := (complete config password user provider draw).perform d
      ∀ q ∈ result.2.office.registry.rows, q ∉ d.office.registry.rows →
        ∃ applicant, d.session.held .applicant = some applicant ∧
          KeyAgrees config password applicant result.2 q := by
  constructor
  · intro applicant cost session flow conditions
    refine ⟨fun h => ?_, fun e h => ?_⟩
    · obtain ⟨draft, hd⟩ := Draft.exists_make h applicant user provider password session flow
        conditions draw
      exact ⟨draft, hd, Draft.opens_of_make hd⟩
    · exact Draft.make_error h applicant user provider password session flow conditions draw
  · intro d reachable under result q committed new
    obtain ⟨p, profile, activation, r, hp, h, rfl⟩ := commit_of_new committed new
    have ha := (prepare_ok_iff.1 hp).2.1
    exact ⟨p.applicant, ha,
      keyAgrees_of_recorded reachable under (recorded_of_persist reachable hp h) rfl ha⟩

open Registry.Traffic (zeroUser)

/-- One block less than the least memory. -/
def tightCost : KeyCost := ⟨7, 1, 1⟩

theorem key_agrees_first :
    tightCost.check = .error .littleMemory ∧
      Draft.make .empty zeroUser none tightCost ⟨"secret"⟩ ⟨"web"⟩ none ⟨none, true, false⟩ zeroDraw =
        .error (.noKey .littleMemory) ∧
      KeyCost.light.check = .ok () ∧
      (∃ draft, Draft.make .empty zeroUser none .light ⟨"secret"⟩ ⟨"web"⟩ none ⟨none, true, false⟩
        zeroDraw = .ok draft ∧ draft.Opens ⟨"secret"⟩ .empty) ∧
      ∃ q ∈ ((complete .light ⟨"secret"⟩ zeroUser none zeroDraw).perform
          firstDesk).2.office.registry.rows,
        q ∉ firstDesk.office.registry.rows ∧ KeyAgrees .light ⟨"secret"⟩ .empty
          ((complete .light ⟨"secret"⟩ zeroUser none zeroDraw).perform firstDesk).2 q := by
  have reachable : firstDesk.office.registry.Reachable := Registry.reachable_empty ⟨7⟩
  obtain ⟨p, profile, activation, r, hp, h⟩ := exists_commit_firstDesk
  obtain ⟨committed, new⟩ := @new_of_persist .light ⟨"secret"⟩ zeroUser none zeroDraw firstDesk
    p r profile activation hp h
  obtain ⟨drafts, profiles⟩ := key_agrees .light ⟨"secret"⟩ zeroUser none zeroDraw
  obtain ⟨applicant, ha, hkey⟩ := profiles firstDesk reachable ⟨rfl, rfl, rfl⟩ _ committed new
  cases ha
  have refused : tightCost.check = .error .littleMemory := rfl
  have allowed : KeyCost.light.check = .ok () := rfl
  have unmade := (drafts .empty tightCost ⟨"web"⟩ none ⟨none, true, false⟩).2 _ refused
  have made := (drafts .empty .light ⟨"web"⟩ none ⟨none, true, false⟩).1 allowed
  exact ⟨refused, unmade, allowed, made, _, committed, new, hkey⟩

end Completion

end Proofing
