import Proofing.Proofs.Completion.Confluence
import Proofing.Proofs.Completion.Evidence
import Proofing.Proofs.Completion.Ledger
import Proofing.Proofs.Completion.Recovery
/-
  Proofing — which activations are announced.

  A profile is active from the commit on, but this is told only once its data is
  staged (`count_complete`), and nothing that is done later tells it
  (`count_run`).  So it is told once, or, where staging fails, never
  (`announced_of_active`).
-/
namespace Proofing.Completion

theorem count_activated_eq_zero {es : List Event} (h : es.filterMap Event.activated? = [])
    (id : ProfileId) : es.count (.profileActivated id) = 0 := by
  refine List.count_eq_zero.2 fun hmem => ?_
  have hid : id ∈ es.filterMap Event.activated? :=
    List.mem_filterMap.2 ⟨_, hmem, rfl⟩
  rw [h] at hid
  exact List.not_mem_nil hid

/-- A step without milestones announces no activation. -/
theorem Told.count_eq {α : Type} {x : Step α} {d : Desk} (h : Told x [] d) (id : ProfileId) :
    (x.perform d).2.office.events.count (.profileActivated id) =
      d.office.events.count (.profileActivated id) := by
  obtain ⟨es, he, hm⟩ := h
  have hnone : es.filterMap Event.activated? = [] :=
    List.sublist_nil.1 (filterMap_sublist Event.activated?_eq_none hm)
  rw [he.queued, List.count_append, count_activated_eq_zero hnone, Nat.add_zero]

/-- Where no profile is made, no activation is announced. -/
theorem count_run (config : Config) (l : Ledger) {as : List Errand}
    (later : ∀ a ∈ as, a.completes = false) (id : ProfileId) :
    (l.run config as).log.count (.profileActivated id) =
      l.log.count (.profileActivated id) := by
  obtain ⟨lost, es, hadded⟩ := l.exists_added_run config as
  have hnumbers := hadded.numbers
  have hcount : as.countP Errand.completes = 0 :=
    List.countP_eq_zero.2 fun a ha => by rw [later a ha]; decide
  rw [hcount, given, Nat.le_zero, Nat.add_eq_zero_iff, List.length_eq_zero_iff] at hnumbers
  have hnone := hadded.once.activated
  rw [hnumbers.2] at hnone
  rw [hadded.log, List.count_append, count_activated_eq_zero (List.sublist_nil.1 hnone),
    Nat.add_zero]

section
variable {config : Config} {password : Password} {user : UserId} {provider : Option ServiceProvider}
  {draw : Draft.Draw} {d : Desk} {p : Prepared} {profile : Profile} {activation : Activation}
  {r : Registry}

/-- The data of a new profile can be staged if staging does not fail. -/
theorem stage_of_persist (works : d.office.vault.failSaves = false)
    (hp : prepare config d.session d.office password user provider draw = .ok p)
    (h : persist d.office p.draft = (.ok (profile, activation), r)) :
    d.office.vault.stage password profile p.applicant = .ok (.ofPii p.applicant) := by
  obtain ⟨-, -, -, hd⟩ := prepare_ok_iff.1 hp
  have hpii : profile.pii = p.draft.pii := congrArg (·.pii) (lasting_of_persist h)
  refine stage_quiet works ?_
  rw [hpii]
  exact Envelope.unlock_lock (Draft.make_ok hd).1

/-- A profile that nothing holds back has no enrollment to be linked to it. -/
theorem enrollment_of_activated
    (hp : prepare config d.session d.office password user provider draw = .ok p)
    (h : persist d.office p.draft = (.ok (profile, activation), r))
    (active : profile.active = true) :
    p.enrollment = none := by
  have hholds := (active_iff (persist_ok h).2.1).1 active
  rw [holds_of_persist hp h, awaited_eq_nil, ← establishing?_isSome] at hholds
  rw [eq_of_openEnrollment (prepare_ok_iff.1 hp).2.2.1]
  exact Option.isNone_iff_eq_none.1 (by simpa using hholds.2.2)

/-- The activation of a profile is announced once its data is staged. -/
theorem count_settle (hid : d.session.profileId = none) (hnone : p.enrollment = none)
    (hstage : d.office.vault.stage password profile p.applicant = .ok (.ofPii p.applicant)) :
    ((settle password user provider p profile .activated).perform d).2.office.events.count
        (.profileActivated profile.id) =
      d.office.events.count (.profileActivated profile.id) + 1 := by
  have happroach : (approach password p profile).perform (noted d profile p.applicant) =
      (.ok (), { noted d profile p.applicant with
        session := (noted d profile p.applicant).session.stage (.ofPii p.applicant) }) := by
    have hstage' : (noted d profile p.applicant).office.vault.stage password profile p.applicant =
      .ok (.ofPii p.applicant) := hstage
    rw [approach_of_stage_ok hstage', hnone]
    rfl
  have hdepart : depart user provider p profile .activated =
      (do
        Step.emit (.profileActivated profile.id)
        let _ ← relocate user
        return (⟨profile.id, .activated, profile.holds, none⟩ : Outcome)) := by
    simp only [depart, follow, bind_assoc, pure_bind]
  have hrest (n : Desk) : Told (relocate user >>= fun _ =>
      pure (⟨profile.id, .activated, profile.holds, none⟩ : Outcome)) [] n :=
    told_relocate.bind fun _ _ _ => told_pure _ _
  rw [settle_eq_depart hid password user provider p profile .activated,
    Step.perform_bind_ok happroach, hdepart, Step.perform_bind_ok (Step.perform_emit _ _),
    (hrest _).count_eq]
  simp [noted]

/-- Whether the activation of a new profile is announced depends on the staging alone. -/
theorem count_complete {q : Profile}
    (committed :
      q ∈ ((complete config password user provider draw).perform d).2.office.registry.rows)
    (new : q ∉ d.office.registry.rows) (active : q.active = true) :
    ((complete config password user provider draw).perform d).2.office.events.count
        (.profileActivated q.id) =
      d.office.events.count (.profileActivated q.id) +
        if d.office.vault.failSaves then 0 else 1 := by
  obtain ⟨p, profile, activation, r, hp, h, rfl⟩ := commit_of_new committed new
  have hid : ({ d with office := { d.office with registry := r } } : Desk).session.profileId =
    none := (prepare_ok_iff.1 hp).1
  rw [complete_of_persist_ok hp h]
  cases failing : d.office.vault.failSaves with
  | true =>
    rw [settle_of_stage_error hid (Vault.stage_failing failing password profile p.applicant)]
    simp [noted]
  | false =>
    have hactivated : activation = .activated := by
      rcases upcoming_cases (persist_ok h).2.1 with ⟨-, hact, -⟩ | ⟨_, -, -, hinactive⟩
      · exact hact
      · cases hinactive.symm.trans active
    subst hactivated
    have hstage := stage_of_persist failing hp h
    rw [if_neg Bool.false_ne_true, Profile.withoutKey_id]
    exact count_settle hid (enrollment_of_activated hp h active) hstage

end

/-- **The activation of a new profile is announced once, or, where its data could not be staged,
    never**, whatever is done later at the desk and whatever fails. -/
theorem announced_of_active (config : Config) (password : Password) (user : UserId)
    (provider : Option ServiceProvider) (draw : Draft.Draw) (d : Desk) {q : Profile}
    (committed :
      q ∈ ((complete config password user provider draw).perform d).2.office.registry.rows)
    (new : q ∉ d.office.registry.rows) (active : q.active = true) {as : List Errand}
    (later : ∀ a ∈ as, a.completes = false) :
    let result := (complete config password user provider draw).perform d
    ((Ledger.run config ⟨result.2.office, []⟩ as).log.count (.profileActivated q.id) =
        d.office.events.count (.profileActivated q.id) +
          if d.office.vault.failSaves then 0 else 1) ∧
      (d.office.vault.failSaves = true → result.1 = .error (.notKept Vault.injected)) := by
  intro result
  refine ⟨?_, fun failing => (complete_of_stage_error failing committed new).1⟩
  rw [count_run config _ later]
  exact count_complete committed new active

open Registry.Traffic (zeroUser)

/-- A session that nothing holds back, with a vault in which nothing can be staged. -/
def confirmedDesk : Desk :=
  { unstagedDesk with session :=
      { firstDesk.session with attributes := ⟨firstDesk.session.attributes.held, .userConfirmed⟩ } }

theorem announced_of_active_unstaged :
    let result := (complete .light ⟨"secret"⟩ zeroUser none zeroDraw).perform confirmedDesk
    let as : List Errand := [.outside (.fail .saves false), .relocate result.2.session zeroUser,
      .drain, .relocate result.2.session zeroUser]
    ∃ q ∈ result.2.office.registry.rows, q ∉ confirmedDesk.office.registry.rows ∧
      q.active = true ∧ (∀ a ∈ as, a.completes = false) ∧
        result.1 = .error (.notKept Vault.injected) ∧
        (Ledger.run .light ⟨result.2.office, []⟩ as).log.count (.profileActivated q.id) = 0 := by
  intro result as
  have hnone : awaited .light confirmedDesk.session firstDesk.office zeroUser = [] :=
    awaited_eq_nil.2 ⟨by decide, by decide, by decide⟩
  obtain ⟨p, profile, activation, r, hp, h⟩ := @exists_commit_of_quiet
    ⟨confirmedDesk.session, firstDesk.office⟩ zeroUser none .light ⟨"secret"⟩ zeroDraw .empty
    not_isOn_firstDesk rfl rfl rfl (fun q hq => absurd hq List.not_mem_nil)
  have hactive : profile.withoutKey.active = true :=
    (active_iff (persist_ok h).2.1).2 ((holds_of_persist hp h).trans hnone)
  obtain ⟨committed, new⟩ := @new_of_persist .light ⟨"secret"⟩ zeroUser none zeroDraw confirmedDesk
    p r profile activation hp h
  have later : ∀ a ∈ as, a.completes = false := by simp [as, Errand.completes]
  obtain ⟨hcount, hfails⟩ := announced_of_active .light ⟨"secret"⟩ zeroUser none zeroDraw
    confirmedDesk committed new hactive later
  exact ⟨_, committed, new, hactive, later, hfails rfl, hcount⟩

end Proofing.Completion
