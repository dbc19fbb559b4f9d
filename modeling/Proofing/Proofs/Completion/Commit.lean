import Mathlib.Logic.Basic
import Proofing.Proofs.Completion.Steps
import Proofing.Proofs.Envelope
import Proofing.Proofs.Registry.History
/-
  Proofing — a session and the registry agree, whatever fails.

  `complete` has one point at which it takes effect, the commit.  Each of its
  exits is on one side of it: `prepare_error` and `persist_error` are those
  before, `persist_ok` and `behind_settle` say what is there behind it.
  `complete_agrees` puts them together; a session that is ready gets as far as the
  commit where nothing fails (`exists_commit_of_quiet`).
-/
namespace Proofing

/-! ## Before the commit -/

theorem Draft.make_ok {applicant : Pii} {user : UserId} {provider : Option ServiceProvider}
    {cost : KeyCost} {password : Password} {session : SessionId} {flow : Option Uuid}
    {conditions : Conditions} {draw : Draw} {d : Draft}
    (h : make applicant user provider cost password session flow conditions draw = .ok d) :
    Envelope.lock applicant password cost draw.pii = .ok d.pii ∧
      Envelope.lock applicant (PersonalKey.draw draw.personalKey).password cost draw.recovery =
        .ok d.recovery ∧
      d = ⟨user, provider, d.pii, d.recovery, .draw draw.personalKey, .derive session flow user,
        conditions.fraud, conditions.letterNeeded, conditions.visitNeeded⟩ := by
  unfold make at h
  cases hp : Envelope.lock applicant password cost draw.pii with
  | error e => simp only [hp] at h; cases h
  | ok pii =>
    cases hr : Envelope.lock applicant (PersonalKey.draw draw.personalKey).password cost
        draw.recovery with
    | error e => simp only [hp, hr] at h; cases h
    | ok recovery => simp only [hp, hr] at h; cases h; exact ⟨rfl, rfl, rfl⟩

/-- The draft can be made, if a key can have the cost. -/
theorem Draft.exists_make {cost : KeyCost} (h : cost.check = .ok ()) (applicant : Pii)
    (user : UserId) (provider : Option ServiceProvider) (password : Password) (session : SessionId)
    (flow : Option Uuid) (conditions : Conditions) (draw : Draw) :
    ∃ d, make applicant user provider cost password session flow conditions draw = .ok d := by
  obtain ⟨pii, hp⟩ := Envelope.lock_ok h applicant password draw.pii
  obtain ⟨recovery, hr⟩ := Envelope.lock_ok h applicant (PersonalKey.draw draw.personalKey).password
    draw.recovery
  simp only [make, hp, hr]
  exact ⟨_, rfl⟩

namespace Completion

section
variable {config : Config} {s : Session} {o : Office} {password : Password} {user : UserId}
  {provider : Option ServiceProvider} {draw : Draft.Draw}

/-- For a session with an applicant and without a profile, the draft is all that can fail. -/
theorem prepare_eq {applicant : Pii} {enrollment : Option Enrollment} (hid : s.profileId = none)
    (ha : s.held .applicant = some applicant) (he : openEnrollment o user = .ok enrollment) :
    prepare config s o password user provider draw =
      match Draft.make applicant user provider config.cost password s.id s.nonce
        (conditions config s enrollment) draw with
      | .ok draft => .ok ⟨applicant, enrollment, draft⟩
      | .error e => .error (.sealing e) := by
  simp only [prepare, hid, ha, he]
  cases hd : Draft.make applicant user provider config.cost password s.id s.nonce
      (conditions config s enrollment) draw <;>
    simp [hd, Except.mapError, bind, Except.bind, pure, Except.pure]

theorem eq_of_openEnrollment {enrollment : Option Enrollment}
    (h : openEnrollment o user = .ok enrollment) :
    enrollment = o.enrollments.establishing? user := by
  unfold openEnrollment at h
  cases hr : o.reach .establishing <;> rw [hr] at h <;> cases h
  rfl

theorem prepare_ok_iff {p : Prepared} :
    prepare config s o password user provider draw = .ok p ↔
      s.profileId = none ∧ s.held .applicant = some p.applicant ∧
        openEnrollment o user = .ok p.enrollment ∧
        Draft.make p.applicant user provider config.cost password s.id s.nonce
          (conditions config s p.enrollment) draw = .ok p.draft := by
  constructor
  · intro h
    cases hid : s.profileId with
    | some id => rw [prepare, hid] at h; cases h
    | none =>
      cases ha : s.held .applicant with
      | none => rw [prepare, hid, ha] at h; cases h
      | some applicant =>
        cases he : openEnrollment o user with
        | error e => rw [prepare, hid, ha, he] at h; cases h
        | ok enrollment =>
          rw [prepare_eq hid ha he] at h
          split at h
          · rename_i hd
            cases h; exact ⟨rfl, rfl, rfl, hd⟩
          · cases h
  · rintro ⟨hid, ha, he, hd⟩
    rw [prepare_eq hid ha he, hd]

theorem key_of_prepare {p : Prepared}
    (h : prepare config s o password user provider draw = .ok p) :
    p.draft.key = .derive s.id s.nonce user := by
  obtain ⟨-, -, -, hd⟩ := prepare_ok_iff.1 h
  obtain ⟨-, -, hd⟩ := Draft.make_ok hd
  rw [hd]

theorem prepare_error {e : FlowError}
    (h : prepare config s o password user provider draw = .error e) : e.IsEarly := by
  cases hid : s.profileId with
  | some id => rw [prepare, hid] at h; cases h; trivial
  | none =>
    cases ha : s.held .applicant with
    | none => rw [prepare, hid, ha] at h; cases h; trivial
    | some applicant =>
      cases he : openEnrollment o user with
      | error e => rw [prepare, hid, ha, he] at h; cases h; trivial
      | ok enrollment =>
        rw [prepare_eq hid ha he] at h
        split at h <;> cases h
        trivial

/-- A session that is ready for its profile can only fail for its enrollment. -/
theorem prepare_error_of_ready {e : FlowError} (hid : s.profileId = none)
    (ha : (s.held .applicant).isSome) (hc : config.cost.check = .ok ())
    (h : prepare config s o password user provider draw = .error e) :
    ∃ f, openEnrollment o user = .error f ∧ e = .notCreated f := by
  obtain ⟨applicant, ha⟩ := Option.isSome_iff_exists.1 ha
  cases he : openEnrollment o user with
  | error f =>
    rw [prepare, hid, ha, he] at h
    cases h; exact ⟨f, rfl, rfl⟩
  | ok enrollment =>
    obtain ⟨d, hd⟩ := Draft.exists_make hc applicant user provider password s.id s.nonce
      (conditions config s enrollment) draw
    rw [prepare_eq hid ha he, hd] at h
    cases h

end

/-! ## The transaction -/

/-- What a new profile comes to: it is activated unless something holds it back. -/
def launched (now : Timestamp) (p : Profile) : Activation × Profile :=
  match p.hold? with
  | some h => (.blocked h, p)
  | none => (.activated, { p with active := true, activatedAt := some now })

theorem launched_lasting (now : Timestamp) (p : Profile) : (launched now p).2.lasting = p.lasting := by
  unfold launched; split <;> rfl

theorem launched_personalKey (now : Timestamp) (p : Profile) :
    (launched now p).2.personalKey = p.personalKey := by
  unfold launched; split <;> rfl

theorem activateNew_eq (r : Registry) (p : Profile) :
    activateNew r (Transaction.empty.stage p) p =
      ((launched r.now p).1, (launched r.now p).2,
        Transaction.empty.stage (launched r.now p).2) := by
  unfold activateNew launched
  cases h : p.hold? with
  | some x => rfl
  | none => simp [Registry.activate, h, Transaction.stage, Transaction.empty, Transaction.replace,
      Profile.withoutKey]

section
variable {o : Office} {draft : Draft}

/-- The profile that a draft is about to become. -/
def upcoming (r : Registry) (draft : Draft) : Activation × Profile :=
  launched r.now (.ofDraft ⟨r.nextId⟩ draft r.now)

theorem upcoming_lasting (r : Registry) (draft : Draft) :
    (upcoming r draft).2.lasting = (Profile.ofDraft ⟨r.nextId⟩ draft r.now).lasting :=
  launched_lasting _ _

theorem upcoming_key (r : Registry) (draft : Draft) : (upcoming r draft).2.key = draft.key :=
  Profile.key_of_lasting (upcoming_lasting r draft)

/-- A profile is made in one transaction of one row. -/
theorem persist_eq (hs : o.reach .start = .ok ()) {c : Profile} {r : Registry} {t : Transaction}
    (hc : o.registry.create .empty draft = .ok (c, r, t)) :
    persist o draft =
      match r.commit (Transaction.empty.stage (upcoming o.registry draft).2) with
      | .error e => (.error e, r)
      | .ok r' => (.ok ((upcoming o.registry draft).2, (upcoming o.registry draft).1), r') := by
  obtain ⟨-, -, rfl, rfl, rfl⟩ := Registry.create_ok hc
  simp only [persist, hs, hc, activateNew_eq]
  rfl

theorem persist_ok {p : Profile} {a : Activation} {r : Registry}
    (h : persist o draft = (.ok (p, a), r)) :
    (∀ q ∈ o.registry.rows, q.key ≠ draft.key) ∧ (a, p) = upcoming o.registry draft ∧
      r = { o.registry with
        rows := Registry.place p.withoutKey o.registry.rows
        nextId := o.registry.nextId + 1 } := by
  cases hs : o.reach .start with
  | error e => rw [persist, hs] at h; cases h
  | ok _ =>
    cases hc : o.registry.create .empty draft with
    | error e => rw [persist, hs, hc] at h; cases h
    | ok x =>
      obtain ⟨c, r', t⟩ := x
      rw [persist_eq hs hc] at h
      split at h
      · cases h
      · rename_i hw
        cases h
        obtain ⟨hkey, -, -, rfl, -⟩ := Registry.create_ok hc
        obtain ⟨-, rfl⟩ := Registry.commit_ok hw
        exact ⟨hkey, rfl, rfl⟩

/-- A committed profile is what the draft makes of it, for good. -/
theorem lasting_of_persist {p : Profile} {a : Activation} {r : Registry}
    (h : persist o draft = (.ok (p, a), r)) :
    p.lasting = (Profile.ofDraft ⟨o.registry.nextId⟩ draft o.registry.now).lasting :=
  (congrArg (·.2.lasting) (persist_ok h).2.1).trans (upcoming_lasting o.registry draft)

/-- A committed profile is a new row. -/
theorem row_of_persist (reachable : o.registry.Reachable) {p : Profile} {a : Activation}
    {r : Registry} (h : persist o draft = (.ok (p, a), r)) :
    o.registry.find? p.id = none ∧ r.find? p.id = some p.withoutKey ∧
      r.rows.Perm (p.withoutKey :: o.registry.rows) := by
  obtain ⟨-, -, rfl⟩ := persist_ok h
  have hnew : ∀ q ∈ o.registry.rows, q.id ≠ p.withoutKey.id := by
    intro q hq
    rw [Profile.withoutKey_id, Profile.id_of_lasting (lasting_of_persist h)]
    exact reachable.next_unused hq
  have hordered := Registry.ordered_place p.withoutKey reachable.ordered
  refine ⟨Registry.find?_eq_none_iff.2 hnew, ?_, Registry.place_perm hnew⟩
  exact (Registry.find?_eq_some_iff hordered).2 ⟨Registry.mem_place_self _ _, rfl⟩

theorem persist_error {e : StoreFault} {r : Registry} (h : persist o draft = (.error e, r)) :
    ∃ n, (n = o.registry.nextId ∨ n = o.registry.nextId + 1) ∧ r = { o.registry with nextId := n } := by
  cases hs : o.reach .start with
  | error e => rw [persist, hs] at h; cases h; exact ⟨_, Or.inl rfl, rfl⟩
  | ok _ =>
    cases hc : o.registry.create .empty draft with
    | error e => rw [persist, hs, hc] at h; cases h; exact ⟨_, Or.inl rfl, rfl⟩
    | ok x =>
      obtain ⟨c, r', t⟩ := x
      rw [persist_eq hs hc] at h
      obtain ⟨-, -, -, rfl, -⟩ := Registry.create_ok hc
      split at h <;> cases h
      exact ⟨_, Or.inr rfl, rfl⟩

end

/-! ## Behind the commit -/

/-- The desk once the session records a committed profile. -/
def noted (d : Desk) (p : Profile) (applicant : Pii) : Desk where
  session := recorded d.session p applicant
  office := { d.office with
    events := d.office.events ++ [.profileCreated p.id p.user p.holds] }

theorem held_recorded_pii (s : Session) (q : Profile) (applicant : Pii) :
    (recorded s q applicant).held .pii = some (.inline applicant) := by
  unfold recorded Session.held Session.put
  rw [Attributes.held_put_of_ne _ _ (by decide), Attributes.held_put_self]

theorem held_recorded_profileId (s : Session) (q : Profile) (applicant : Pii) :
    (recorded s q applicant).profileId = some q.id := by
  unfold recorded Session.profileId Attributes.profileId Session.put
  rw [Attributes.held_put_of_ne _ _ (by decide), Attributes.held_put_of_ne _ _ (by decide),
    Attributes.held_put_self]

theorem held_recorded_personalKey (s : Session) (q : Profile) (applicant : Pii) :
    (recorded s q applicant).held .personalKey = q.personalKey :=
  Attributes.held_put_self _ _ _

/-- No other attribute changes. -/
theorem held_recorded_of_not_mem (s : Session) (q : Profile) (applicant : Pii) {slot : Slot}
    (h : slot ∉ [.profileId, .pii, .personalKey]) :
    (recorded s q applicant).held slot = s.held slot := by
  simp only [List.mem_cons, List.not_mem_nil, or_false, not_or] at h
  unfold recorded Session.held Session.put
  rw [Attributes.held_put_of_ne _ _ h.2.2, Attributes.held_put_of_ne _ _ h.2.1,
    Attributes.held_put_of_ne _ _ h.1]

/-- What is done before a profile goes its way: its data is staged and its enrollment linked. -/
def approach (password : Password) (p : Prepared) (profile : Profile) : Step Unit := do
  let staged ← Step.lift .notKept ((← Step.office).vault.stage password profile p.applicant)
  Step.setSession ((← Step.session).stage staged)
  if let some enrollment := p.enrollment then link enrollment profile.id

/-- What is left then: the profile goes its way, and the outcome is told. -/
def depart (user : UserId) (provider : Option ServiceProvider) (p : Prepared) (profile : Profile)
    (activation : Activation) : Step Outcome := do
  let r ← follow user provider p.enrollment profile.id activation
  return ⟨profile.id, r.1, profile.holds, r.2⟩

theorem settles_approach {password : Password} {p : Prepared} {profile : Profile} {d : Desk} :
    Settles (approach password p profile) d := by
  refine (Settles.of_ok (Step.perform_office d) (.refl d)).bind fun o d₁ _ _ => ?_
  refine Settles.bind ?_ fun staged d₂ _ _ => ?_
  · cases o.vault.stage password profile p.applicant with
    | error e => exact .of_error (Step.perform_lift_error _ e d₁) (.refl d₁) trivial
    | ok t => exact .of_ok (Step.perform_lift_ok _ t d₁) (.refl d₁)
  refine (Settles.of_ok (Step.perform_session d₂) (.refl d₂)).bind fun s d₃ hs _ => ?_
  refine Settles.bind ?_ fun _ d₄ _ _ => ?_
  · cases hs
    exact .of_ok (Step.perform_setSession _ d₂) ⟨rfl, rfl, some staged, rfl⟩
  cases p.enrollment with
  | none => exact settles_pure _ _
  | some enrollment => exact settles_link

section
variable {d : Desk} (h : d.session.profileId = none) (password : Password) (user : UserId)
  (provider : Option ServiceProvider) (p : Prepared) (profile : Profile) (activation : Activation)
include h

theorem settle_eq :
    (settle password user provider p profile activation).perform d =
      (do
        let staged ← Step.lift .notKept
          ((← Step.office).vault.stage password profile p.applicant)
        Step.setSession ((← Step.session).stage staged)
        if let some enrollment := p.enrollment then link enrollment profile.id
        let (status, code) ← follow user provider p.enrollment profile.id activation
        return (⟨profile.id, status, profile.holds, code⟩ : Outcome)).perform
          (noted d profile p.applicant) := by
  rw [settle, Step.perform_bind_ok (perform_record profile p.applicant h)]
  rfl

/-- The profile goes its way last. -/
theorem settle_eq_depart :
    (settle password user provider p profile activation).perform d =
      (approach password p profile >>= fun _ => depart user provider p profile activation).perform
        (noted d profile p.applicant) := by
  rw [settle_eq h]
  unfold approach depart
  cases p.enrollment <;> simp only [bind_assoc, pure_bind]

/-- Behind the commit the registry stays, and the session keeps what it records. -/
theorem behind_settle :
    Behind (noted d profile p.applicant)
        ((settle password user provider p profile activation).perform d).2 ∧
      ∀ e, ((settle password user provider p profile activation).perform d).1 = .error e →
        e.IsLate := by
  have hp : (noted d profile p.applicant).session.held .pii = some (.inline p.applicant) :=
    held_recorded_pii d.session profile p.applicant
  rw [settle_eq_depart h password user provider p profile activation]
  suffices hs : Settles _ (noted d profile p.applicant) from ⟨hs.behind, hs.late⟩
  refine settles_approach.bind fun _ n _ hn => ?_
  rw [← hn.held] at hp
  exact (settles_follow hp _ _).bind fun _ _ _ _ => settles_pure _ _

/-- The outcome is that of the committed profile. -/
theorem outcome_settle {out : Outcome}
    (hout : ((settle password user provider p profile activation).perform d).1 = .ok out) :
    out.profile = profile.id ∧ out.holds = profile.holds := by
  rw [settle_eq_depart h password user provider p profile activation] at hout
  obtain ⟨_, _, -, hout⟩ := Step.ok_of_perform_bind hout
  obtain ⟨_, _, -, hout⟩ := Step.ok_of_perform_bind hout
  cases hout
  exact ⟨rfl, rfl⟩

end

/-! ## The whole step -/

section
variable {config : Config} {password : Password} {user : UserId} {provider : Option ServiceProvider}
  {draw : Draft.Draw} {d : Desk} {p : Prepared} {r : Registry}

theorem complete_of_prepare_error {e : FlowError}
    (h : prepare config d.session d.office password user provider draw = .error e) :
    (complete config password user provider draw).perform d = (.error e, d) := by
  have hp : Step.perform (Step.lift id (prepare config d.session d.office password user provider
      draw)) d = (.error e, d) := by rw [h]; rfl
  exact Step.perform_bind_error hp _

theorem complete_of_prepare_ok
    (h : prepare config d.session d.office password user provider draw = .ok p) :
    (complete config password user provider draw).perform d =
      (do
        Step.modifyOffice fun o => { o with registry := (persist d.office p.draft).2 }
        let (profile, activation) ← Step.lift .notCreated (persist d.office p.draft).1
        settle password user provider p profile activation).perform d := by
  have hp : Step.perform (Step.lift id (prepare config d.session d.office password user provider
      draw)) d = (.ok p, d) := by rw [h]; rfl
  exact Step.perform_bind_ok hp _

theorem complete_of_persist_error {e : StoreFault}
    (hp : prepare config d.session d.office password user provider draw = .ok p)
    (h : persist d.office p.draft = (.error e, r)) :
    (complete config password user provider draw).perform d =
      (.error (.notCreated e), { d with office := { d.office with registry := r } }) := by
  rw [complete_of_prepare_ok hp, h]; rfl

theorem complete_of_persist_ok {profile : Profile} {activation : Activation}
    (hp : prepare config d.session d.office password user provider draw = .ok p)
    (h : persist d.office p.draft = (.ok (profile, activation), r)) :
    (complete config password user provider draw).perform d =
      (settle password user provider p profile activation).perform
        { d with office := { d.office with registry := r } } := by
  rw [complete_of_prepare_ok hp, h]; rfl

/-- The personal key of a committed profile is the one that was drawn for it. -/
theorem personalKey_of_persist {profile : Profile} {activation : Activation}
    (hp : prepare config d.session d.office password user provider draw = .ok p)
    (h : persist d.office p.draft = (.ok (profile, activation), r)) :
    profile.personalKey = some (.draw draw.personalKey) := by
  obtain ⟨-, -, -, hd⟩ := prepare_ok_iff.1 hp
  obtain ⟨-, -, hdraft⟩ := Draft.make_ok hd
  have hup := congrArg (·.2.personalKey) (persist_ok h).2.1
  rw [upcoming, launched_personalKey] at hup
  rw [hup, hdraft]
  rfl

/-- What follows the commit leaves the registry alone. -/
theorem registry_of_persist {profile : Profile} {activation : Activation}
    (hp : prepare config d.session d.office password user provider draw = .ok p)
    (h : persist d.office p.draft = (.ok (profile, activation), r)) :
    ((complete config password user provider draw).perform d).2.office.registry = r := by
  have hid : ({ d with office := { d.office with registry := r } } : Desk).session.profileId =
    none := (prepare_ok_iff.1 hp).1
  rw [complete_of_persist_ok hp h]
  exact (behind_settle hid password user provider p profile activation).1.registry

/-- A profile that was committed is a new row. -/
theorem new_of_persist {profile : Profile} {activation : Activation}
    (hp : prepare config d.session d.office password user provider draw = .ok p)
    (h : persist d.office p.draft = (.ok (profile, activation), r)) :
    profile.withoutKey ∈
        ((complete config password user provider draw).perform d).2.office.registry.rows ∧
      profile.withoutKey ∉ d.office.registry.rows := by
  obtain ⟨hfree, hup, hr⟩ := persist_ok h
  have hkey : profile.key = p.draft.key := by
    rw [← upcoming_key d.office.registry p.draft, ← hup]
  constructor
  · rw [registry_of_persist hp h, hr]
    exact Registry.mem_place_self _ _
  · intro hold
    exact hfree _ hold hkey

/-- A new row is a profile that was committed. -/
theorem commit_of_new {q : Profile}
    (committed :
      q ∈ ((complete config password user provider draw).perform d).2.office.registry.rows)
    (new : q ∉ d.office.registry.rows) :
    ∃ p profile activation r,
      prepare config d.session d.office password user provider draw = .ok p ∧
        persist d.office p.draft = (.ok (profile, activation), r) ∧ q = profile.withoutKey := by
  cases hp : prepare config d.session d.office password user provider draw with
  | error e =>
    rw [complete_of_prepare_error hp] at committed
    exact absurd committed new
  | ok p =>
    rcases h : persist d.office p.draft with ⟨e | ⟨profile, activation⟩, r⟩
    · rw [complete_of_persist_error hp h] at committed
      obtain ⟨n, -, rfl⟩ := persist_error h
      exact absurd committed new
    · rw [registry_of_persist hp h] at committed
      have hr := (persist_ok h).2.2
      subst hr
      rcases Registry.mem_of_mem_place committed with rfl | hold
      · exact ⟨p, profile, activation, _, rfl, h, rfl⟩
      · exact absurd hold new

end

/-! ## Where nothing fails -/

section
variable {o : Office} {d : Desk} {user : UserId} {provider : Option ServiceProvider}

theorem reach_quiet (quiet : ∀ f, ¬ IsOn o f) (c : Call) : o.reach c = .ok () := by
  exact if_neg (quiet (.call c))

theorem persist_quiet (quiet : ∀ f, ¬ IsOn o f) {draft : Draft}
    (free : ∀ q ∈ o.registry.rows, q.key ≠ draft.key) :
    persist o draft = (.ok ((upcoming o.registry draft).2, (upcoming o.registry draft).1),
      { o.registry with
        rows := Registry.place (upcoming o.registry draft).2.withoutKey o.registry.rows
        nextId := o.registry.nextId + 1 }) := by
  have creates : o.registry.failCreates = false := Bool.not_eq_true _ ▸ quiet .creates
  have commits : o.registry.failCommits = false := Bool.not_eq_true _ ▸ quiet .commits
  have hc := Registry.create_eq (t := .empty) creates free fun _ hq => by cases hq
  have hw := Registry.commit_eq (r := { o.registry with nextId := o.registry.nextId + 1 })
    (t := Transaction.empty.stage (upcoming o.registry draft).2) commits fun p hp q hq _ => by
      rw [List.mem_singleton.1 hp]
      exact (upcoming_key o.registry draft) ▸ free q hq
  rw [persist_eq (reach_quiet quiet .start) hc, hw]
  rfl

/-- A session with an applicant and without a profile gets as far as the commit. -/
theorem exists_commit_of_quiet {config : Config} {password : Password} {draw : Draft.Draw}
    {applicant : Pii} (quiet : ∀ f, ¬ IsOn d.office f) (hid : d.session.profileId = none)
    (ha : d.session.held .applicant = some applicant) (cost : config.cost.check = .ok ())
    (free : ∀ q ∈ d.office.registry.rows, q.key ≠ .derive d.session.id d.session.nonce user) :
    ∃ p profile activation r,
      prepare config d.session d.office password user provider draw = .ok p ∧
        persist d.office p.draft = (.ok (profile, activation), r) := by
  have hopen : openEnrollment d.office user = .ok (d.office.enrollments.establishing? user) := by
    rw [openEnrollment, reach_quiet quiet .establishing]; rfl
  obtain ⟨draft, hd⟩ := Draft.exists_make cost applicant user provider password d.session.id
    d.session.nonce (conditions config d.session (d.office.enrollments.establishing? user)) draw
  obtain ⟨-, -, hdraft⟩ := Draft.make_ok hd
  have hfree : ∀ q ∈ d.office.registry.rows, q.key ≠ draft.key := by rw [hdraft]; exact free
  exact ⟨⟨applicant, _, draft⟩, _, _, _, prepare_ok_iff.2 ⟨hid, ha, hopen, hd⟩,
    persist_quiet quiet hfree⟩

end

/-! ## Both sides of the commit -/

/-- Nothing is done, but a number of the registry may be used up. -/
structure Untouched (d : Desk) (result : Except FlowError Outcome × Desk) : Prop where
  early : ∃ e, result.1 = .error e ∧ e.IsEarly
  session : result.2.session = d.session
  office : ∃ n, (n = d.office.registry.nextId ∨ n = d.office.registry.nextId + 1) ∧
    result.2.office = { d.office with registry := { d.office.registry with nextId := n } }

/-- A profile is made, and the session records it. -/
structure Recorded (config : Config) (password : Password) (draw : Draft.Draw) (d : Desk)
    (result : Except FlowError Outcome × Desk) (p : Profile) : Prop where
  /-- The profile comes to the rows there are. -/
  rows : result.2.office.registry.rows.Perm (p :: d.office.registry.rows)
  unknown : d.office.registry.find? p.id = none
  found : result.2.office.registry.find? p.id = some p
  profileId : result.2.session.profileId = some p.id
  personalKey : result.2.session.held .personalKey = some (.draw draw.personalKey)
  /-- The applicant is what is sealed, under the password and under the personal key. -/
  applicant : ∃ a, d.session.held .applicant = some a ∧
    result.2.session.held .pii = some (.inline a) ∧
    Envelope.lock a password config.cost draw.pii = .ok p.pii ∧
    Envelope.lock a (PersonalKey.draw draw.personalKey).password config.cost draw.recovery =
      .ok p.recovery
  /-- Every other attribute stays. -/
  held : ∀ slot, slot ∉ [.profileId, .pii, .personalKey] →
    result.2.session.held slot = d.session.held slot
  /-- All else in the session stays, but what is staged. -/
  session : ∃ held staged, result.2.session =
    { d.session with attributes := ⟨held, d.session.attributes.phone⟩, staged }
  late : ∀ e, result.1 = .error e → e.IsLate
  outcome : ∀ out, result.1 = .ok out → out.profile = p.id ∧ out.holds = p.holds

section
variable {config : Config} {password : Password} {user : UserId} {provider : Option ServiceProvider}
  {draw : Draft.Draw} {d : Desk} {p : Prepared} {r : Registry}

theorem untouched_of_prepare {e : FlowError}
    (h : prepare config d.session d.office password user provider draw = .error e) :
    Untouched d ((complete config password user provider draw).perform d) := by
  rw [complete_of_prepare_error h]
  exact ⟨⟨e, rfl, prepare_error h⟩, rfl, _, Or.inl rfl, rfl⟩

theorem untouched_of_persist {e : StoreFault}
    (hp : prepare config d.session d.office password user provider draw = .ok p)
    (h : persist d.office p.draft = (.error e, r)) :
    Untouched d ((complete config password user provider draw).perform d) := by
  rw [complete_of_persist_error hp h]
  obtain ⟨n, hn, rfl⟩ := persist_error h
  exact ⟨⟨_, rfl, trivial⟩, rfl, n, hn, rfl⟩

/-- The profile of a transaction that is committed is new, and kept without its personal key. -/
theorem recorded_of_persist (reachable : d.office.registry.Reachable) {profile : Profile}
    {activation : Activation}
    (hp : prepare config d.session d.office password user provider draw = .ok p)
    (h : persist d.office p.draft = (.ok (profile, activation), r)) :
    Recorded config password draw d ((complete config password user provider draw).perform d)
      profile.withoutKey := by
  rw [complete_of_persist_ok hp h]
  obtain ⟨hid, ha, -, hd⟩ := prepare_ok_iff.1 hp
  obtain ⟨hpii, hrecovery, -⟩ := Draft.make_ok hd
  have hlasting := lasting_of_persist h
  obtain ⟨hunknown, hfound, hrows⟩ := row_of_persist reachable h
  have hkey := personalKey_of_persist hp h
  -- what is done behind the commit leaves the rows and what the session has noted
  have hid' : ({ d with office := { d.office with registry := r } } : Desk).session.profileId = none :=
    hid
  obtain ⟨hbehind, hlate⟩ := behind_settle hid' password user provider p profile activation
  have hout := @outcome_settle _ hid' password user provider p profile activation
  have hregistry := hbehind.registry
  change _ = r at hregistry
  obtain ⟨staged, hs⟩ := hbehind.session
  constructor
  case rows => rw [hregistry]; exact hrows
  case unknown => exact hunknown
  case found => rw [hregistry]; exact hfound
  case profileId => rw [hbehind.profileId]; exact held_recorded_profileId _ _ _
  case personalKey =>
    rw [hbehind.held]
    exact (held_recorded_personalKey _ _ _).trans hkey
  case applicant =>
    refine ⟨p.applicant, ha, ?_, ?_, ?_⟩
    · rw [hbehind.held]; exact held_recorded_pii _ _ _
    · have : profile.pii = p.draft.pii := congrArg (·.pii) hlasting
      rw [← this] at hpii; exact hpii
    · have : profile.recovery = p.draft.recovery := congrArg (·.recovery) hlasting
      rw [← this] at hrecovery; exact hrecovery
  case held =>
    intro slot hslot
    rw [hbehind.held]; exact held_recorded_of_not_mem _ _ _ hslot
  case session => exact ⟨_, staged, hs⟩
  case late => exact hlate
  case outcome => exact @hout

/-- **A session and the registry agree after every attempt to complete a flow**, whatever fails:
    either nothing is done, or a profile is committed and the session records it. -/
theorem complete_agrees (config : Config) (password : Password) (user : UserId)
    (provider : Option ServiceProvider) (draw : Draft.Draw) (d : Desk)
    (reachable : d.office.registry.Reachable) :
    Xor (Untouched d ((complete config password user provider draw).perform d))
      (∃ p, Recorded config password draw d
        ((complete config password user provider draw).perform d) p) := by
  have apart : Untouched d ((complete config password user provider draw).perform d) →
      ¬ ∃ p, Recorded config password draw d
        ((complete config password user provider draw).perform d) p := by
    rintro ⟨-, -, n, -, ho⟩ ⟨p, hrec⟩
    have hfound := hrec.found
    rw [ho] at hfound
    exact absurd (hrec.unknown.symm.trans hfound) (by simp)
  suffices Untouched d ((complete config password user provider draw).perform d) ∨ ∃ p, _ by
    rcases this with h | h
    exacts [Or.inl ⟨h, apart h⟩, Or.inr ⟨h, fun hu => apart hu h⟩]
  cases hp : prepare config d.session d.office password user provider draw with
  | error e => exact Or.inl (untouched_of_prepare hp)
  | ok p =>
    rcases h : persist d.office p.draft with ⟨e | ⟨profile, activation⟩, r⟩
    · exact Or.inl (untouched_of_persist hp h)
    · exact Or.inr ⟨_, recorded_of_persist reachable hp h⟩

end

open Registry.Traffic (zeroUser zeroChoices)

/-- A session with an applicant, before anything was done with the services. -/
def firstDesk : Desk where
  session := (Session.new ⟨"web"⟩ .light).put .applicant (some .empty)
  office := .empty ⟨7⟩

theorem not_isOn_firstDesk (f : Failure) : ¬ IsOn firstDesk.office f :=
  not_isOn_of_off rfl rfl rfl rfl rfl rfl rfl f

/-- Random choices that all came out as zeros. -/
def zeroDraw : Draft.Draw :=
  ⟨zeroChoices, ⟨fun _ => 0, fun _ => 0⟩, ⟨fun _ => 0, fun _ => 0⟩⟩

theorem exists_commit_firstDesk :
    ∃ p profile activation r,
      prepare .light firstDesk.session firstDesk.office ⟨"secret"⟩ zeroUser none zeroDraw = .ok p ∧
        persist firstDesk.office p.draft = (.ok (profile, activation), r) :=
  exists_commit_of_quiet not_isOn_firstDesk rfl rfl rfl fun _ hq => absurd hq List.not_mem_nil

theorem complete_agrees_first :
    firstDesk.office.registry.Reachable ∧ firstDesk.session.profileId = none ∧
      (let result := (complete .light ⟨"secret"⟩ zeroUser none zeroDraw).perform
        firstDesk
      Xor (Untouched firstDesk result)
          (∃ p, Recorded .light ⟨"secret"⟩ zeroDraw firstDesk result p) ∧
        ∃ p, Recorded .light ⟨"secret"⟩ zeroDraw firstDesk result p) := by
  have reachable : firstDesk.office.registry.Reachable := Registry.reachable_empty ⟨7⟩
  have agrees := complete_agrees .light ⟨"secret"⟩ zeroUser none zeroDraw firstDesk reachable
  refine ⟨reachable, rfl, agrees, (agrees.resolve_left ?_).1⟩
  rintro ⟨⟨-, -, n, -, ho⟩, -⟩
  -- there is a row that was not there before
  obtain ⟨p, profile, activation, r, hp, h⟩ := exists_commit_firstDesk
  obtain ⟨committed, new⟩ := new_of_persist hp h
  rw [ho] at committed
  exact new committed

end Completion

end Proofing
