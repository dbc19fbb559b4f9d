import Proofing.Proofs.Completion.Ways
import Proofing.Proofs.Session.Staging
/-
  Proofing — what can be made up for when a profile's data was not staged.

  The data of a new profile is opened and staged right after the commit.  Where
  that fails, nothing new is staged (`complete_of_stage_error`), and taking what
  is staged into the vault finds only what was staged before: the vault gets the
  data of the applicant if and only if that was there already
  (`recovers_iff_staged`).
-/
namespace Proofing

/-! ## What is staged -/

theorem Vault.relocate_of_not_staged {v : Vault} {s : Session} (h : s.hasStaged = false)
    (user : UserId) : v.relocate s user = .ok (false, s, v) := by
  simp only [relocate, h]
  rfl

theorem Vault.relocate_of_staged {v : Vault} {s : Session} {id : ProfileId} {t : StagedText}
    (hid : s.profileId = some id) (ht : s.staged = some t) (hb : t.isBlank = false)
    (user : UserId) :
    v.relocate s user =
      (v.persist user id t).map fun v => (true, { s with staged := none }, v) := by
  have hs : s.hasStaged = true := Session.hasStaged_eq_true.2 ⟨t, ht, hb⟩
  simp only [relocate, hs, if_true, hid, ht]
  cases v.persist user id t <;> rfl

theorem Vault.stage_failing {v : Vault} (h : v.failSaves = true) (password : Password)
    (profile : Profile) (pii : Pii) : v.stage password profile pii = .error injected := by
  simp only [stage, h, if_true]
  rfl

namespace Completion
variable {config : Config} {password : Password} {user : UserId} {provider : Option ServiceProvider}
  {draw : Draft.Draw} {d : Desk}

theorem relocate_of_not_staged (h : d.session.hasStaged = false) :
    (relocate user).perform d = (.ok false, d) := by
  rw [perform_relocate_ok (Vault.relocate_of_not_staged h user)]
  simp

/-! ## Staging fails -/

/-- The settling of a profile whose data cannot be staged ends there. -/
theorem settle_of_stage_error {p : Prepared} {profile : Profile} {activation : Activation}
    {e : StoreFault} (hid : d.session.profileId = none)
    (h : d.office.vault.stage password profile p.applicant = .error e) :
    (settle password user provider p profile activation).perform d =
      (.error (.notKept e), noted d profile p.applicant) := by
  rw [settle_eq hid]
  have hs : (noted d profile p.applicant).office.vault.stage password profile p.applicant =
    .error e := h
  simp [Step.perform_bind, hs]

/-- A profile is committed, but its data cannot be staged. -/
theorem complete_of_stage_error (failing : d.office.vault.failSaves = true) {q : Profile}
    (committed :
      q ∈ ((complete config password user provider draw).perform d).2.office.registry.rows)
    (new : q ∉ d.office.registry.rows) :
    ((complete config password user provider draw).perform d).1 =
        .error (.notKept Vault.injected) ∧
      ((complete config password user provider draw).perform d).2.session.profileId = some q.id ∧
      ((complete config password user provider draw).perform d).2.session.staged =
        d.session.staged ∧
      ((complete config password user provider draw).perform d).2.office.vault =
        d.office.vault := by
  obtain ⟨p, profile, activation, r, hp, h, rfl⟩ := commit_of_new committed new
  have hid : ({ d with office := { d.office with registry := r } } : Desk).session.profileId =
    none := (prepare_ok_iff.1 hp).1
  rw [complete_of_persist_ok hp h,
    settle_of_stage_error hid (Vault.stage_failing failing password profile p.applicant)]
  exact ⟨rfl, held_recorded_profileId _ _ _, rfl, rfl⟩

/-- Taking what a session has staged into the vault succeeds, and the vault then has the data for
    the profile of the session. -/
def Recovers (user : UserId) (d : Desk) (pii : Pii) : Prop :=
  ((relocate user).perform d).1 = .ok true ∧ ∃ id, d.session.profileId = some id ∧
    ((relocate user).perform d).2.office.vault.durable user = some (id, pii)

theorem recovers_iff {pii : Pii} (works : d.office.vault.failWrites = false) {id : ProfileId}
    (hid : d.session.profileId = some id) :
    Recovers user d pii ↔
      ∃ t, d.session.staged = some t ∧ t.isBlank = false ∧ t.toPii? = some pii := by
  cases hs : d.session.hasStaged with
  | false =>
    have hnot : ¬ ∃ t, d.session.staged = some t ∧ t.isBlank = false := by
      rw [← Session.hasStaged_eq_true, hs]
      simp
    constructor
    · rintro ⟨h, -⟩
      rw [relocate_of_not_staged hs] at h
      cases h
    · rintro ⟨t, ht, hb, -⟩
      exact absurd ⟨t, ht, hb⟩ hnot
  | true =>
    obtain ⟨t, ht, hb⟩ := Session.hasStaged_eq_true.1 hs
    have hmove := Vault.relocate_of_staged (v := d.office.vault) hid ht hb user
    unfold Recovers
    cases hread : t.toPii? with
    | none =>
      have hfail : d.office.vault.persist user id t = .error .unreadable := by
        simp [Vault.persist, works, hread]
      rw [hfail] at hmove
      rw [perform_relocate_error hmove]
      simp [ht, hb, hread]
    | some found =>
      have hdone : d.office.vault.persist user id t =
          .ok { d.office.vault.enter user id found with writes := d.office.vault.writes + 1 } := by
        simp [Vault.persist, works, hread]
      rw [hdone] at hmove
      rw [perform_relocate_ok hmove]
      simp [ht, hb, hread, hid, Vault.enter]

/-- **Where the data of a new profile cannot be staged, it can be taken into the vault later if and
    only if it was staged before**, however well the services work by then; with nothing staged
    there is nothing to take. -/
theorem recovers_iff_staged (config : Config) (password : Password) (user : UserId)
    (provider : Option ServiceProvider) (draw : Draft.Draw) (d : Desk)
    (failing : d.office.vault.failSaves = true) {q : Profile}
    (committed :
      q ∈ ((complete config password user provider draw).perform d).2.office.registry.rows)
    (new : q ∉ d.office.registry.rows) {o : Office} (works : o.vault.failWrites = false) :
    let result := (complete config password user provider draw).perform d
    result.1 = .error (.notKept Vault.injected) ∧
      (∀ pii, Recovers user ⟨result.2.session, o⟩ pii ↔
        ∃ t, d.session.staged = some t ∧ t.isBlank = false ∧ t.toPii? = some pii) ∧
      (d.session.hasStaged = false → (relocate user).perform ⟨result.2.session, o⟩ =
        (.ok false, ⟨result.2.session, o⟩)) := by
  intro result
  obtain ⟨herror, hid, hstaged, -⟩ := complete_of_stage_error failing committed new
  refine ⟨herror, fun pii => ?_, fun h => relocate_of_not_staged ?_⟩
  · rw [← hstaged]
    exact recovers_iff works hid
  · change result.2.session.hasStaged = false
    rwa [Session.hasStaged, hstaged]

open Registry.Traffic (zeroUser)

/-- Everything works but the staging. -/
def unstagedDesk : Desk :=
  { firstDesk with office := firstDesk.office.setFailing .saves true }

theorem recovers_iff_staged_unstaged :
    let result := (complete .light ⟨"secret"⟩ zeroUser none zeroDraw).perform unstagedDesk
    let o := result.2.office.setFailing .saves false
    ∃ q ∈ result.2.office.registry.rows, q ∉ unstagedDesk.office.registry.rows ∧
      unstagedDesk.office.vault.failSaves = true ∧ o.vault.failWrites = false ∧
        result.1 = .error (.notKept Vault.injected) ∧
        ¬ Recovers zeroUser ⟨result.2.session, o⟩ .empty ∧
        (relocate zeroUser).perform ⟨result.2.session, o⟩ = (.ok false, ⟨result.2.session, o⟩) := by
  intro result o
  obtain ⟨p, profile, activation, r, hp, h⟩ := exists_commit_firstDesk
  obtain ⟨committed, new⟩ := @new_of_persist .light ⟨"secret"⟩ zeroUser none zeroDraw unstagedDesk
    p r profile activation hp h
  have works : o.vault.failWrites = false := by
    change result.2.office.vault.failWrites = false
    rw [(complete_of_stage_error rfl committed new).2.2.2]
    rfl
  obtain ⟨herror, hrecovers, hnothing⟩ := recovers_iff_staged .light ⟨"secret"⟩ zeroUser none
    zeroDraw unstagedDesk rfl committed new works
  refine ⟨_, committed, new, rfl, works, herror, fun hr => ?_, hnothing rfl⟩
  obtain ⟨t, ht, -⟩ := (hrecovers _).1 hr
  cases ht

end Completion

end Proofing
