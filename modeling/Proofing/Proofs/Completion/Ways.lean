import Proofing.Proofs.Completion.Commit
import Proofing.Proofs.Pii
/-
  Proofing — the ways that a committed profile can go when no service fails.

  * the services succeed one by one: `stage_quiet`, `relocate_quiet`, `link_quiet`,
    `sendLetter_quiet`;
  * so each way is gone to its end: `follow_activated`, `follow_letter`,
    `follow_visit`, `follow_held`;
  * `settle_quiet` puts what is done up to the ways in front of them.
-/
namespace Proofing.Completion

/-! ## The services -/

section
variable {o : Office} {d : Desk} {user : UserId} {provider : Option ServiceProvider}
  {profile : ProfileId} {pii : Pii}

theorem stage_quiet {v : Vault} (h : v.failSaves = false) {password : Password} {p : Profile}
    (hp : p.pii.unlock password = .ok pii) : v.stage password p pii = .ok (.ofPii pii) := by
  simp [Vault.stage, h, hp, Except.mapError, bind, Except.bind, pure, Except.pure]

/-- The vault once staged data of a profile is taken in. -/
def filled (v : Vault) (user : UserId) (profile : ProfileId) (pii : Pii) : Vault :=
  { v.enter user profile pii with writes := v.writes + 1 }

theorem relocate_quiet (h : d.office.vault.failWrites = false)
    (hid : d.session.profileId = some profile) (hs : d.session.staged = some (.ofPii pii)) :
    (relocate user).perform d = (.ok true,
      { session := { d.session with staged := none }
        office := { d.office with
          vault := filled d.office.vault user profile pii
          events := d.office.events ++ [.piiRelocated profile] } }) := by
  have hmoved : d.office.vault.relocate d.session user =
      .ok (true, { d.session with staged := none }, filled d.office.vault user profile pii) := by
    simp [Vault.relocate, Session.hasStaged, hs, hid, StagedText.isBlank_ofPii, Vault.persist, h,
      StagedText.toPii?_ofPii, filled, bind, Except.bind, pure, Except.pure]
  rw [perform_relocate_ok hmoved]
  have hid' : ({ d.session with staged := none } : Session).profileId = some profile := hid
  simp [hid']

/-- The desk once the enrollment, if there is one, is linked to the profile. -/
def joined (d : Desk) (profile : ProfileId) : Option Enrollment → Desk
  | none => d
  | some e =>
    { d with office := { d.office with
        enrollments := d.office.enrollments.enter e.user { e with profile := some profile }
        events := d.office.events ++ [.enrollmentLinked profile e.id] } }

theorem link_quiet (h : d.office.reach .link = .ok ()) {e : Enrollment}
    (he : d.office.enrollments.ofUser e.user = some e) :
    (link e profile).perform d = (.ok (), joined d profile (some e)) := by
  have hlink : d.office.enrollments.link e profile =
      .ok (d.office.enrollments.enter e.user { e with profile := some profile }) := by
    simp [Enrollments.link, he, Option.filter]
  refine perform_link_ok ?_
  rw [linked, h, ← hlink]
  rfl

/-- The mailroom and the code of the letter once one more is sent. -/
def posted (m : Mailroom) (profile : ProfileId) (provider : Option ServiceProvider) :
    LetterCode × Mailroom :=
  (.ofNumber m.nextNumber.toNat, { m with
    letters := m.letters ++ [⟨profile, provider, .ofNumber m.nextNumber.toNat⟩]
    nextNumber := m.nextNumber + 1 })

theorem sendLetter_quiet (h : d.office.mailroom.fail = false)
    (hp : d.session.held .pii = some (.inline pii)) :
    (sendLetter user profile provider).perform d =
      (.ok (posted d.office.mailroom profile provider).1,
        { d with office := { d.office with
            mailroom := (posted d.office.mailroom profile provider).2
            events := d.office.events ++ [.letterRequested profile] } }) := by
  refine perform_sendLetter_ok (resolvePii_inline hp) ?_
  exact if_neg (by simp [h])

/-! ## Four ways -/

/-- An active profile: its data goes into the vault. -/
theorem follow_activated (h : d.office.vault.failWrites = false)
    (hid : d.session.profileId = some profile) (hs : d.session.staged = some (.ofPii pii))
    (enrollment : Option Enrollment) :
    (follow user provider enrollment profile .activated).perform d = (.ok (.activated, none),
      { session := { d.session with staged := none }
        office := { d.office with
          vault := filled d.office.vault user profile pii
          events := d.office.events ++ [.profileActivated profile, .piiRelocated profile] } }) := by
  generalize hd : ({ d with office := { d.office with
    events := d.office.events ++ [.profileActivated profile] } } : Desk) = d₁
  have moved : (relocate user).perform d₁ = (.ok true, _) :=
    relocate_quiet (by rw [← hd]; exact h) (by rw [← hd]; exact hid) (by rw [← hd]; exact hs)
  rw [follow, Step.perform_bind_ok (Step.perform_emit _ d), hd, Step.perform_bind_ok moved]
  subst hd
  simp

/-- A letter is awaited: the data goes into the vault, and the letter is sent. -/
theorem follow_letter (h : d.office.vault.failWrites = false) (hm : d.office.mailroom.fail = false)
    (hid : d.session.profileId = some profile) (hs : d.session.staged = some (.ofPii pii))
    (hp : d.session.held .pii = some (.inline pii)) (hb : d.session.address.byLetter = true)
    (enrollment : Option Enrollment) (hold : Hold) :
    (follow user provider enrollment profile (.blocked hold)).perform d =
      (.ok (.pendingLetter, some (posted d.office.mailroom profile provider).1),
        { session := { d.session with staged := none }
          office := { d.office with
            vault := filled d.office.vault user profile pii
            mailroom := (posted d.office.mailroom profile provider).2
            events := d.office.events ++ [.piiRelocated profile, .letterRequested profile] } }) := by
  have moved : (relocate user).perform d = (.ok true, _) := relocate_quiet h hid hs
  rw [follow, Step.perform_bind_ok (Step.perform_session d), hb, if_pos rfl,
    Step.perform_bind_ok moved]
  generalize hd : ({ session := _, office := _ } : Desk) = d₁
  have hp' : d₁.session.held .pii = some (.inline pii) := hd ▸ hp
  have sent : (sendLetter user profile provider).perform d₁ = (.ok _, _) :=
    sendLetter_quiet (by rw [← hd]; exact hm) hp'
  rw [Step.perform_bind_ok sent]
  subst hd
  simp

/-- A visit is awaited: the vendor is told. -/
theorem follow_visit (hf : d.office.enrollments.failScheduling = false)
    (hp : d.session.held .pii = some (.inline pii)) (hb : d.session.address.byLetter = false)
    {e : Enrollment} (he : d.office.enrollments.ofUser user = some e)
    (enrollment : Enrollment) (hold : Hold) :
    (follow user provider (some enrollment) profile (.blocked hold)).perform d =
      (.ok (.pendingVisit, none),
        { d with office := { d.office with
            enrollments := { d.office.enrollments.enter user { e with stage := .pending } with
              scheduled := d.office.enrollments.scheduled ++ [user] }
            events := d.office.events ++ [.visitScheduled profile] } }) := by
  have scheduled : (schedule user profile).perform d = (.ok (), _) :=
    perform_schedule_ok (resolvePii_inline hp)
      (by simp only [Enrollments.schedule, hf, he]; rfl)
  rw [follow, Step.perform_bind_ok (Step.perform_session d), hb]
  exact Step.perform_bind_ok scheduled _

/-- Something else is awaited: nothing is left to do. -/
theorem follow_held (hb : d.session.address.byLetter = false) (hold : Hold) :
    (follow user provider none profile (.blocked hold)).perform d = (.ok (.ofHold hold, none), d) := by
  rw [follow, Step.perform_bind_ok (Step.perform_session d), hb]
  rfl

end

/-! ## Up to the ways -/

/-- The desk once the data is staged. -/
def staged (d : Desk) (pii : Pii) : Desk :=
  { d with session := d.session.stage (.ofPii pii) }

/-- The desk at which the ways part. -/
def parting (d : Desk) (p : Prepared) (profile : Profile) : Desk :=
  joined (staged (noted d profile p.applicant) p.applicant) profile.id p.enrollment

section
variable (d : Desk) (p : Prepared) (profile : Profile)

theorem parting_session : (parting d p profile).session =
    (recorded d.session profile p.applicant).stage (.ofPii p.applicant) := by
  unfold parting joined; split <;> rfl

theorem parting_registry : (parting d p profile).office.registry = d.office.registry := by
  unfold parting joined; split <;> rfl

theorem parting_vault : (parting d p profile).office.vault = d.office.vault := by
  unfold parting joined; split <;> rfl

theorem parting_mailroom : (parting d p profile).office.mailroom = d.office.mailroom := by
  unfold parting joined; split <;> rfl

theorem parting_schedule :
    (parting d p profile).office.enrollments.scheduled = d.office.enrollments.scheduled ∧
      (parting d p profile).office.enrollments.failScheduling =
        d.office.enrollments.failScheduling := by
  unfold parting joined; split <;> exact ⟨rfl, rfl⟩

theorem parting_events : (parting d p profile).office.events =
    d.office.events ++ [.profileCreated profile.id profile.user profile.holds] ++
      (p.enrollment.map fun e => Event.enrollmentLinked profile.id e.id).toList := by
  unfold parting
  cases p.enrollment with
  | none => exact (List.append_nil _).symm
  | some e => rfl

/-- The proof of the address is none of what the session notes. -/
theorem address_recorded (s : Session) (q : Profile) (applicant : Pii) :
    (recorded s q applicant).address = s.address := by
  have : (recorded s q applicant).held .mechanism = s.held .mechanism :=
    held_recorded_of_not_mem s q applicant (by decide)
  rw [Session.address, this]; rfl

end

theorem settle_quiet {d d' : Desk} {password : Password} {user : UserId}
    {provider : Option ServiceProvider} {p : Prepared} {profile : Profile} {activation : Activation}
    {status : Status} {code : Option LetterCode} (quiet : ∀ f, ¬ IsOn d.office f)
    (hid : d.session.profileId = none) (hu : profile.pii.unlock password = .ok p.applicant)
    (he : ∀ e, p.enrollment = some e → d.office.enrollments.ofUser e.user = some e)
    (h : (follow user provider p.enrollment profile.id activation).perform (parting d p profile) =
      (.ok (status, code), d')) :
    (settle password user provider p profile activation).perform d =
      (.ok ⟨profile.id, status, profile.holds, code⟩, d') := by
  have saves : d.office.vault.failSaves = false := Bool.not_eq_true _ ▸ quiet .saves
  have hstage : (noted d profile p.applicant).office.vault.stage password profile p.applicant =
      .ok (.ofPii p.applicant) := stage_quiet saves hu
  have hset : (Step.setSession ((noted d profile p.applicant).session.stage
      (.ofPii p.applicant))).perform (noted d profile p.applicant) =
        (.ok (), staged (noted d profile p.applicant) p.applicant) := rfl
  have hreach : (staged (noted d profile p.applicant) p.applicant).office.reach .link = .ok () :=
    reach_quiet quiet .link
  rw [settle_eq hid, Step.perform_bind_ok (Step.perform_office _), hstage,
    Step.perform_bind_ok (Step.perform_lift_ok _ _ _),
    Step.perform_bind_ok (Step.perform_session _), Step.perform_bind_ok hset]
  rw [parting] at h
  cases hen : p.enrollment with
  | none =>
    rw [hen] at h
    exact Step.perform_bind_ok h _
  | some e =>
    rw [hen] at h
    have hlink : (link e profile.id).perform _ = (.ok (), joined _ profile.id (some e)) :=
      link_quiet hreach (he e hen)
    exact (Step.perform_bind_ok hlink _).trans (Step.perform_bind_ok h _)

end Proofing.Completion
