import Proofing.Proofs.Completion.Ways
import Proofing.Proofs.Enrollment
/-
  Proofing — completing a flow when nothing fails.

  `awaited` lists what holds the new profile back.  `Parted` is what there is at
  the desk where the four ways part, and each of them ends in what `Undisturbed`
  says; `complete_undisturbed` leads up to them.
-/
namespace Proofing.Completion

/-! ## What holds a profile back -/

/-- The verdict on the device calls for a review, and verdicts are acted on. -/
def underReview (config : Config) (s : Session) : Bool :=
  config.decisioning &&
    (s.held .deviceReview == some .review || s.held .deviceReview == some .reject)

/-- The letter was chosen, or the phone is not confirmed on both sides. -/
def letterAwaited (s : Session) : Bool :=
  s.held .mechanism == some .letter ||
    !(s.attributes.phone.vendor == some true && s.attributes.phone.user == some true)

/-- The user has an enrollment that is not handed to the vendor yet. -/
def visitAwaited (o : Office) (user : UserId) : Bool :=
  (o.enrollments.ofUser user).any (·.stage == .establishing)

/-- The hold that a review means. -/
def reviewHold (s : Session) : FraudHold :=
  if s.held .deviceReview = some .reject then .reject else .review

/-- All that holds a profile back, in order. -/
def awaited (config : Config) (s : Session) (o : Office) (user : UserId) : List Hold :=
  (if underReview config s then [.fraudReview (reviewHold s)] else []) ++
    (if letterAwaited s then [.letter] else []) ++ (if visitAwaited o user then [.inPerson] else [])

section
variable {config : Config} {s : Session} {o : Office} {user : UserId}

theorem fraudHold_eq : FraudHold.of config.decisioning (s.held .deviceReview) =
    if underReview config s then some (reviewHold s) else none := by
  unfold FraudHold.of underReview reviewHold
  cases config.decisioning with
  | false => rfl
  | true =>
    cases h : s.held .deviceReview with
    | none => rfl
    | some v => cases v <;> rfl

theorem needsLetter_eq : s.address.needsLetter = letterAwaited s := by
  unfold letterAwaited Session.address AddressProof.needsLetter AddressProof.byLetter
  cases s.attributes.phone <;> rfl

theorem establishing?_isSome : (o.enrollments.establishing? user).isSome = visitAwaited o user := by
  unfold visitAwaited Enrollments.establishing?
  cases h : o.enrollments.ofUser user with
  | none => rfl
  | some e => cases he : e.stage == .establishing <;> simp [Option.filter, he]

theorem awaited_eq_nil : awaited config s o user = [] ↔
    underReview config s = false ∧ letterAwaited s = false ∧ visitAwaited o user = false := by
  unfold awaited
  cases underReview config s <;> cases letterAwaited s <;> cases visitAwaited o user <;> simp

theorem holds_of_lasting {p q : Profile} (h : p.lasting = q.lasting) : p.holds = q.holds := by
  have : p.lasting.holds = q.lasting.holds := congrArg Profile.holds h
  exact this

/-- The holds on a new profile. -/
theorem holds_ofDraft (id : ProfileId) (now : Timestamp) {draft : Draft} {e : Option Enrollment}
    (he : e = o.enrollments.establishing? user)
    (hf : draft.fraud = (conditions config s e).fraud)
    (hl : draft.letterNeeded = (conditions config s e).letterNeeded)
    (hv : draft.visitNeeded = (conditions config s e).visitNeeded) :
    (Profile.ofDraft id draft now).holds = awaited config s o user := by
  have hv' : draft.visitNeeded = visitAwaited o user := by
    rw [hv, ← establishing?_isSome, he]; rfl
  have hl' : draft.letterNeeded = letterAwaited s := hl.trans needsLetter_eq
  have hf' := hf.trans fraudHold_eq
  simp only [Profile.holds, Profile.ofDraft, hv', hl', hf', awaited]
  cases underReview config s <;> cases letterAwaited s <;> cases visitAwaited o user <;> rfl

/-- A profile is active from the start if nothing holds it back, and else blocked by the first. -/
theorem upcoming_cases {r : Registry} {draft : Draft} {activation : Activation} {profile : Profile}
    (h : (activation, profile) = upcoming r draft) :
    (profile.holds = [] ∧ activation = .activated ∧ profile.active = true) ∨
      ∃ hold, profile.holds.head? = some hold ∧ activation = .blocked hold ∧
        profile.active = false := by
  unfold upcoming launched at h
  split at h
  · rename_i hold hh
    cases h
    exact Or.inr ⟨hold, hh, rfl, rfl⟩
  · rename_i hh
    cases h
    exact Or.inl ⟨Profile.hold?_eq_none.1 hh, rfl, rfl⟩

theorem active_iff {r : Registry} {draft : Draft} {activation : Activation} {profile : Profile}
    (h : (activation, profile) = upcoming r draft) :
    profile.active = true ↔ profile.holds = [] := by
  rcases upcoming_cases h with ⟨hh, -, ha⟩ | ⟨hold, hh, -, ha⟩
  · simp [hh, ha]
  · have : profile.holds ≠ [] := by intro e; rw [e] at hh; cases hh
    simp [this, ha]

end

/-! ## The outcome -/

/-- What there is when nothing has failed. -/
structure Undisturbed (config : Config) (user : UserId) (provider : Option ServiceProvider)
    (applicant : Pii) (d : Desk) (out : Outcome) (d' : Desk) : Prop where
  holds : out.holds = awaited config d.session d.office user
  status : out.status =
    if d.session.held .mechanism = some .letter then .pendingLetter
    else if visitAwaited d.office user then .pendingVisit
    else (out.holds.head?.map Status.ofHold).getD .activated
  activated : out.status = .activated ↔ out.holds = []
  free : out.holds = [] ↔ underReview config d.session = false ∧
    letterAwaited d.session = false ∧ visitAwaited d.office user = false
  /-- The profile is a new row, active if nothing holds it back. -/
  stored : ∃ p, d'.office.registry.find? out.profile = some p ∧
    d'.office.registry.rows.Perm (p :: d.office.registry.rows) ∧ p.user = user ∧
    p.provider = provider ∧ p.key = .derive d.session.id d.session.nonce user ∧
    p.holds = out.holds ∧ (p.active = true ↔ out.status = .activated)
  session : d'.session.profileId = some out.profile ∧
    d'.session.held .pii = some (.inline applicant)
  /-- One letter is sent if the letter was chosen, and its code is told. -/
  letter : d.session.held .mechanism = some .letter → ∃ code, out.code = some code ∧
    d'.office.mailroom.letters = d.office.mailroom.letters ++ [⟨out.profile, provider, code⟩]
  noLetter : d.session.held .mechanism ≠ some .letter →
    out.code = none ∧ d'.office.mailroom.letters = d.office.mailroom.letters
  /-- The visit is scheduled once, unless a letter comes first. -/
  scheduled : d'.office.enrollments.scheduled = d.office.enrollments.scheduled ++
    if visitAwaited d.office user ∧ d.session.held .mechanism ≠ some .letter then [user] else []
  /-- An open enrollment is linked to the profile, and handed to the vendor with the visit. -/
  enrollment : ∀ u, d'.office.enrollments.ofUser u =
    if u = user ∧ visitAwaited d.office user then
      (d.office.enrollments.ofUser u).map fun e => { e with
        profile := some out.profile
        stage := if d.session.held .mechanism = some .letter then e.stage else .pending }
    else d.office.enrollments.ofUser u
  /-- The data of an active profile, and of one that awaits a letter that was chosen, is in the
      vault. -/
  kept : out.holds = [] ∨ d.session.held .mechanism = some .letter →
    d'.session.staged = none ∧ d'.office.vault = filled d.office.vault user out.profile applicant
  /-- Otherwise it stays staged. -/
  staged : out.holds ≠ [] → d.session.held .mechanism ≠ some .letter →
    d'.session.staged = some (.ofPii applicant) ∧ d'.office.vault = d.office.vault
  /-- Everything that was done is told, in order. -/
  events : d'.office.events = d.office.events ++ [.profileCreated out.profile user out.holds] ++
    ((d.office.enrollments.establishing? user).map
      fun e => Event.enrollmentLinked out.profile e.id).toList ++
    if out.holds = [] then [.profileActivated out.profile, .piiRelocated out.profile]
    else if d.session.held .mechanism = some .letter then
      [.piiRelocated out.profile, .letterRequested out.profile]
    else if visitAwaited d.office user then [.visitScheduled out.profile] else []

/-- What there is at the desk where the ways part. -/
structure Parted (config : Config) (user : UserId) (provider : Option ServiceProvider)
    (applicant : Pii) (d : Desk) (profile : Profile) (n : Desk) : Prop where
  holds : profile.holds = awaited config d.session d.office user
  stored : ∃ p, n.office.registry.find? profile.id = some p ∧
    n.office.registry.rows.Perm (p :: d.office.registry.rows) ∧ p.user = user ∧
    p.provider = provider ∧ p.key = .derive d.session.id d.session.nonce user ∧
    p.holds = profile.holds ∧ (p.active = true ↔ profile.holds = [])
  profileId : n.session.profileId = some profile.id
  pii : n.session.held .pii = some (.inline applicant)
  staged : n.session.staged = some (.ofPii applicant)
  byLetter : n.session.address.byLetter = (d.session.held .mechanism == some .letter)
  vault : n.office.vault = d.office.vault
  mailroom : n.office.mailroom = d.office.mailroom
  enrollment : ∀ u, n.office.enrollments.ofUser u =
    if u = user ∧ visitAwaited d.office user then
      (d.office.enrollments.ofUser u).map fun e => { e with profile := some profile.id }
    else d.office.enrollments.ofUser u
  scheduled : n.office.enrollments.scheduled = d.office.enrollments.scheduled
  schedules : n.office.enrollments.failScheduling = d.office.enrollments.failScheduling
  events : n.office.events = d.office.events ++ [.profileCreated profile.id user profile.holds] ++
    ((d.office.enrollments.establishing? user).map
      fun e => Event.enrollmentLinked profile.id e.id).toList

namespace Parted

variable {config : Config} {user : UserId} {provider : Option ServiceProvider} {applicant : Pii}
  {d n : Desk} {profile : Profile} (h : Parted config user provider applicant d profile n)
include h

/-- A profile that nothing holds back has its data in the vault. -/
theorem activated (hholds : profile.holds = []) :
    Undisturbed config user provider applicant d ⟨profile.id, .activated, profile.holds, none⟩
      { session := { n.session with staged := none }
        office := { n.office with
          vault := filled n.office.vault user profile.id applicant
          events := n.office.events ++
            [.profileActivated profile.id, .piiRelocated profile.id] } } := by
  obtain ⟨hfraud, hletter, hvisit⟩ := awaited_eq_nil.1 (h.holds.symm.trans hholds)
  have hmechanism : d.session.held .mechanism ≠ some .letter := by
    intro e; simp [letterAwaited, e] at hletter
  constructor
  case holds => exact h.holds
  case status => simp [hmechanism, hvisit, hholds]
  case activated => simp [hholds]
  case free => rw [h.holds]; exact awaited_eq_nil
  case stored => simpa [hholds] using h.stored
  case session => exact ⟨h.profileId, h.pii⟩
  case letter => exact fun e => absurd e hmechanism
  case noLetter => exact fun _ => ⟨rfl, congrArg (·.letters) h.mailroom⟩
  case scheduled => simpa [hvisit] using h.scheduled
  case enrollment => simpa [hvisit] using h.enrollment
  case kept => exact fun _ => ⟨rfl, by rw [h.vault]⟩
  case staged => exact fun e => absurd hholds e
  case events => simp [h.events, hholds]

/-- A profile that a letter was chosen for has its data in the vault, and its letter sent. -/
theorem letter (hmechanism : d.session.held .mechanism = some .letter) :
    Undisturbed config user provider applicant d
      ⟨profile.id, .pendingLetter, profile.holds,
        some (posted n.office.mailroom profile.id provider).1⟩
      { session := { n.session with staged := none }
        office := { n.office with
          vault := filled n.office.vault user profile.id applicant
          mailroom := (posted n.office.mailroom profile.id provider).2
          events := n.office.events ++
            [.piiRelocated profile.id, .letterRequested profile.id] } } := by
  have hletter : letterAwaited d.session = true := by simp [letterAwaited, hmechanism]
  have hholds : profile.holds ≠ [] := by
    rw [h.holds, Ne, awaited_eq_nil]; simp [hletter]
  constructor
  case holds => exact h.holds
  case status => simp [hmechanism]
  case activated => simp [hholds]
  case free => rw [h.holds]; exact awaited_eq_nil
  case stored => simpa [hholds] using h.stored
  case session => exact ⟨h.profileId, h.pii⟩
  case letter => exact fun _ => ⟨_, rfl, by rw [h.mailroom]; rfl⟩
  case noLetter => exact fun e => absurd hmechanism e
  case scheduled => simpa [hmechanism] using h.scheduled
  case enrollment => simpa [hmechanism] using h.enrollment
  case kept => exact fun _ => ⟨rfl, by rw [h.vault]⟩
  case staged => exact fun _ e => absurd hmechanism e
  case events => simp [h.events, hholds, hmechanism]

/-- A profile with an open enrollment, and no letter chosen, has its visit scheduled. -/
theorem visit (hmechanism : d.session.held .mechanism ≠ some .letter) {e₀ e : Enrollment}
    (hopen : d.office.enrollments.establishing? user = some e₀)
    (he : n.office.enrollments.ofUser user = some e) :
    Undisturbed config user provider applicant d ⟨profile.id, .pendingVisit, profile.holds, none⟩
      { n with office := { n.office with
          enrollments := { n.office.enrollments.enter user { e with stage := .pending } with
            scheduled := n.office.enrollments.scheduled ++ [user] }
          events := n.office.events ++ [.visitScheduled profile.id] } } := by
  have hvisit : visitAwaited d.office user = true := by rw [← establishing?_isSome, hopen]; rfl
  have hholds : profile.holds ≠ [] := by
    rw [h.holds, Ne, awaited_eq_nil]; simp [hvisit]
  constructor
  case holds => exact h.holds
  case status => simp [hmechanism, hvisit]
  case activated => simp [hholds]
  case free => rw [h.holds]; exact awaited_eq_nil
  case stored => simpa [hholds] using h.stored
  case session => exact ⟨h.profileId, h.pii⟩
  case letter => exact fun e => absurd e hmechanism
  case noLetter => exact fun _ => ⟨rfl, congrArg (·.letters) h.mailroom⟩
  case scheduled => simp [hvisit, hmechanism, h.scheduled]
  case enrollment =>
    intro u
    have hu := h.enrollment u
    by_cases e' : u = user
    · rw [if_pos ⟨e', hvisit⟩] at hu ⊢
      rw [e'] at hu ⊢
      obtain ⟨e₁, he₁, rfl⟩ := Option.map_eq_some_iff.1 (hu.symm.trans he)
      simp [Enrollments.enter, he₁, hmechanism]
    · simpa [e', Enrollments.enter] using hu
  case kept => exact fun k => (k.resolve_left hholds |> hmechanism).elim
  case staged => exact fun _ _ => ⟨h.staged, h.vault⟩
  case events => simp [h.events, hholds, hmechanism, hvisit]

/-- Any other profile is left as it is. -/
theorem held (hmechanism : d.session.held .mechanism ≠ some .letter)
    (hopen : d.office.enrollments.establishing? user = none) {hold : Hold}
    (hhold : profile.holds.head? = some hold) :
    Undisturbed config user provider applicant d ⟨profile.id, .ofHold hold, profile.holds, none⟩
      n := by
  have hvisit : visitAwaited d.office user = false := by rw [← establishing?_isSome, hopen]; rfl
  have hholds : profile.holds ≠ [] := by
    intro e; rw [e] at hhold; cases hhold
  have hstatus : Status.ofHold hold ≠ .activated := by cases hold <;> simp [Status.ofHold]
  constructor
  case holds => exact h.holds
  case status => simp [hmechanism, hvisit, hhold]
  case activated => simp [hholds, hstatus]
  case free => rw [h.holds]; exact awaited_eq_nil
  case stored => simpa [hholds, hstatus] using h.stored
  case session => exact ⟨h.profileId, h.pii⟩
  case letter => exact fun e => absurd e hmechanism
  case noLetter => exact fun _ => ⟨rfl, congrArg (·.letters) h.mailroom⟩
  case scheduled => simpa [hvisit] using h.scheduled
  case enrollment => simpa [hvisit] using h.enrollment
  case kept => exact fun k => (k.resolve_left hholds |> hmechanism).elim
  case staged => exact fun _ _ => ⟨h.staged, h.vault⟩
  case events => simp [h.events, hholds, hmechanism, hvisit]

end Parted

theorem parting_enrollment {d : Desk} (enrolled : d.office.enrollments.Reachable) {p : Prepared}
    {user : UserId} (h : p.enrollment = d.office.enrollments.establishing? user)
    (profile : Profile) (u : UserId) :
    (parting d p profile).office.enrollments.ofUser u =
      if u = user ∧ visitAwaited d.office user then
        (d.office.enrollments.ofUser u).map fun e => { e with profile := some profile.id }
      else d.office.enrollments.ofUser u := by
  have hvisit : (p.enrollment).isSome = visitAwaited d.office user := by
    rw [h]; exact establishing?_isSome
  unfold parting
  cases hen : p.enrollment with
  | none =>
    rw [hen] at hvisit
    rw [if_neg fun hu => absurd (hvisit.trans hu.2) (by decide)]
    rfl
  | some e =>
    rw [hen] at hvisit h
    obtain ⟨hown, he⟩ := enrolled.establishing?_own h.symm
    by_cases hu : u = user
    · rw [if_pos ⟨hu, hvisit.symm⟩, hu, he]
      exact if_pos hown.symm
    · rw [if_neg fun x => hu x.1]
      exact if_neg fun x => hu (x.trans hown)

section
variable {config : Config} {password : Password} {user : UserId} {provider : Option ServiceProvider}
  {draw : Draft.Draw} {d : Desk} {p : Prepared} {profile : Profile} {activation : Activation}
  {r : Registry}

/-- A committed profile is held back by what is awaited. -/
theorem holds_of_persist
    (hp : prepare config d.session d.office password user provider draw = .ok p)
    (h : persist d.office p.draft = (.ok (profile, activation), r)) :
    profile.holds = awaited config d.session d.office user := by
  obtain ⟨-, -, hopen, hd⟩ := prepare_ok_iff.1 hp
  obtain ⟨-, -, hdraft⟩ := Draft.make_ok hd
  rw [holds_of_lasting (lasting_of_persist h), hdraft]
  exact holds_ofDraft _ _ (eq_of_openEnrollment hopen) rfl rfl rfl

/-- The profile of a transaction that is committed, where the ways part. -/
theorem parted_parting (reachable : d.office.registry.Reachable)
    (enrolled : d.office.enrollments.Reachable)
    (hp : prepare config d.session d.office password user provider draw = .ok p)
    (h : persist d.office p.draft = (.ok (profile, activation), r)) :
    Parted config user provider p.applicant d profile
      (parting { d with office := { d.office with registry := r } } p profile) := by
  obtain ⟨-, -, ho, hd⟩ := prepare_ok_iff.1 hp
  have hopen := eq_of_openEnrollment ho
  obtain ⟨-, -, hdraft⟩ := Draft.make_ok hd
  have hup := (persist_ok h).2.1
  have hlasting := lasting_of_persist h
  obtain ⟨-, hfound, hrows⟩ := row_of_persist reachable h
  have hactive := active_iff hup
  have huser : profile.user = user := by
    have : profile.user = p.draft.user := congrArg (·.user) hlasting
    rw [this, hdraft]
  constructor
  case holds => exact holds_of_persist hp h
  case stored =>
    rw [parting_registry]
    refine ⟨profile.withoutKey, hfound, hrows, huser, ?_, ?_, rfl, hactive⟩
    · have : profile.provider = p.draft.provider := congrArg (·.provider) hlasting
      exact this.trans (congrArg (·.provider) hdraft)
    · exact (Profile.key_of_lasting hlasting).trans (congrArg (·.key) hdraft)
  case profileId =>
    have := held_recorded_profileId d.session profile p.applicant
    rw [parting_session]; exact this
  case pii =>
    have := held_recorded_pii d.session profile p.applicant
    rw [parting_session]; exact this
  case staged => rw [parting_session]; rfl
  case byLetter =>
    have := address_recorded d.session profile p.applicant
    rw [parting_session]
    exact congrArg AddressProof.byLetter this
  case vault => rw [parting_vault]
  case mailroom => rw [parting_mailroom]
  case enrollment =>
    have he : ({ d.office with registry := r } : Office).enrollments.Reachable := enrolled
    exact parting_enrollment (d := { d with office := { d.office with registry := r } }) he hopen
      profile
  case scheduled => exact (parting_schedule _ _ _).1
  case schedules => exact (parting_schedule _ _ _).2
  case events => rw [parting_events, huser, hopen]

end

/-- Behind the commit, each of the four ways is gone to its end. -/
theorem undisturbed_settle {config : Config} {password : Password} {user : UserId}
    {provider : Option ServiceProvider} {d c : Desk} {p : Prepared} {profile : Profile}
    {activation : Activation}
    (quiet : ∀ f, ¬ IsOn c.office f) (hid : c.session.profileId = none)
    (hunlock : profile.pii.unlock password = .ok p.applicant)
    (hopen : p.enrollment = d.office.enrollments.establishing? user)
    (hlink : ∀ e, p.enrollment = some e → c.office.enrollments.ofUser e.user = some e)
    (hparted : Parted config user provider p.applicant d profile (parting c p profile))
    (hactivation : (profile.holds = [] ∧ activation = .activated) ∨
      ∃ hold, profile.holds.head? = some hold ∧ activation = .blocked hold) :
    ∃ out d', (settle password user provider p profile activation).perform c = (.ok out, d') ∧
      Undisturbed config user provider p.applicant d out d' := by
  have writes : (parting c p profile).office.vault.failWrites = false := by
    rw [parting_vault]; exact Bool.not_eq_true _ ▸ quiet .writes
  have letters : (parting c p profile).office.mailroom.fail = false := by
    rw [parting_mailroom]; exact Bool.not_eq_true _ ▸ quiet .letters
  have scheduling : (parting c p profile).office.enrollments.failScheduling = false := by
    rw [(parting_schedule c p profile).2]; exact Bool.not_eq_true _ ▸ quiet .scheduling
  rcases hactivation with ⟨hholds, rfl⟩ | ⟨hold, hhold, rfl⟩
  · refine ⟨_, _, settle_quiet quiet hid hunlock hlink ?_, hparted.activated hholds⟩
    exact follow_activated writes hparted.profileId hparted.staged _
  · by_cases hmechanism : d.session.held .mechanism = some .letter
    · have hb : (parting c p profile).session.address.byLetter = true := by
        rw [hparted.byLetter, hmechanism]; rfl
      refine ⟨_, _, settle_quiet quiet hid hunlock hlink ?_, hparted.letter hmechanism⟩
      exact follow_letter writes letters hparted.profileId hparted.staged hparted.pii hb _ hold
    · have hb : (parting c p profile).session.address.byLetter = false := by
        rw [hparted.byLetter]; simpa using hmechanism
      cases hen : p.enrollment with
      | none =>
        rw [hen] at hopen
        refine ⟨_, _, settle_quiet quiet hid hunlock hlink ?_,
          hparted.held hmechanism hopen.symm hhold⟩
        rw [hen]; exact follow_held hb hold
      | some e₀ =>
        rw [hen] at hopen
        have hvisit : visitAwaited d.office user = true := by
          rw [← establishing?_isSome, ← hopen]; rfl
        have hu := (Option.filter_eq_some_iff.1 hopen.symm).1
        have he := hparted.enrollment user
        rw [if_pos ⟨rfl, hvisit⟩, hu] at he
        refine ⟨_, _, settle_quiet quiet hid hunlock hlink ?_,
          hparted.visit hmechanism hopen.symm he⟩
        rw [hen]; exact follow_visit scheduling hparted.pii hb he e₀ hold

/-- A committed profile leaves every failure as it was. -/
theorem quiet_persist {o : Office} {draft : Draft} {x : Profile × Activation} {r : Registry}
    (quiet : ∀ f, ¬ IsOn o f) (h : persist o draft = (.ok x, r)) :
    ∀ f, ¬ IsOn { o with registry := r } f := by
  obtain ⟨-, -, rfl⟩ := persist_ok h
  refine fun f hf => quiet f ?_
  cases f <;> exact hf

/-- Where nothing fails, a flow whose profile is committed is completed. -/
theorem exists_undisturbed {config : Config} {password : Password} {user : UserId}
    {provider : Option ServiceProvider} {draw : Draft.Draw} {d : Desk} {p : Prepared}
    {profile : Profile} {activation : Activation} {r : Registry}
    (reachable : d.office.registry.Reachable) (enrolled : d.office.enrollments.Reachable)
    (quiet : ∀ f, ¬ IsOn d.office f)
    (hp : prepare config d.session d.office password user provider draw = .ok p)
    (h : persist d.office p.draft = (.ok (profile, activation), r)) :
    ∃ out d', (complete config password user provider draw).perform d = (.ok out, d') ∧
      Undisturbed config user provider p.applicant d out d' := by
  obtain ⟨hid, -, hopen, hdraft⟩ := prepare_ok_iff.1 hp
  have henrollment := eq_of_openEnrollment hopen
  have hunlock : profile.pii.unlock password = .ok p.applicant := by
    have : profile.pii = p.draft.pii := congrArg (·.pii) (lasting_of_persist h)
    rw [this]
    exact Envelope.unlock_lock (Draft.make_ok hdraft).1
  rw [complete_of_persist_ok hp h]
  refine undisturbed_settle (c := { d with office := { d.office with registry := r } })
    (quiet_persist quiet h) hid hunlock henrollment (fun e he => ?_)
    (parted_parting reachable enrolled hp h) ?_
  · obtain ⟨hown, hu⟩ := enrolled.establishing?_own (henrollment.symm.trans he)
    rw [hown]; exact hu
  · rcases upcoming_cases (persist_ok h).2.1 with ⟨hholds, hact, -⟩ | ⟨hold, hhead, hact, -⟩
    · exact .inl ⟨hholds, hact⟩
    · exact .inr ⟨hold, hhead, hact⟩

/-- **A flow that nothing disturbs is completed**, and goes the way that its address and its
    enrollment call for. -/
theorem complete_undisturbed (config : Config) (password : Password) (user : UserId)
    (provider : Option ServiceProvider) (draw : Draft.Draw) (d : Desk) {applicant : Pii}
    (reachable : d.office.registry.Reachable) (enrolled : d.office.enrollments.Reachable)
    (quiet : ∀ f, ¬ IsOn d.office f) (ha : d.session.held .applicant = some applicant)
    (hid : d.session.profileId = none) (cost : config.cost.check = .ok ())
    (free : ∀ p ∈ d.office.registry.rows, p.key ≠ .derive d.session.id d.session.nonce user) :
    ∃ out d', (complete config password user provider draw).perform d = (.ok out, d') ∧
      Undisturbed config user provider applicant d out d' := by
  obtain ⟨p, profile, activation, r, hp, h⟩ :=
    @exists_commit_of_quiet d user provider config password draw applicant quiet hid ha cost free
  obtain rfl : p.applicant = applicant := by
    have ha' := (prepare_ok_iff.1 hp).2.1
    exact Option.some.inj (ha'.symm.trans ha)
  exact exists_undisturbed reachable enrolled quiet hp h

open Registry.Traffic (zeroUser)

theorem complete_undisturbed_first :
    firstDesk.office.registry.Reachable ∧ firstDesk.office.enrollments.Reachable ∧
      (∀ f, ¬ IsOn firstDesk.office f) ∧ firstDesk.session.held .applicant = some .empty ∧
      firstDesk.session.profileId = none ∧ Config.light.cost.check = .ok () ∧
      (∀ p ∈ firstDesk.office.registry.rows,
        p.key ≠ .derive firstDesk.session.id firstDesk.session.nonce zeroUser) ∧
      ∃ out d', (complete .light ⟨"secret"⟩ zeroUser none zeroDraw).perform firstDesk = (.ok out, d') ∧
        Undisturbed .light zeroUser none .empty firstDesk out d' := by
  have reachable : firstDesk.office.registry.Reachable := Registry.reachable_empty ⟨7⟩
  have free : ∀ p ∈ firstDesk.office.registry.rows,
      p.key ≠ .derive firstDesk.session.id firstDesk.session.nonce zeroUser :=
    fun p hp => by cases hp
  exact ⟨reachable, .empty, not_isOn_firstDesk, rfl, rfl, rfl, free,
    complete_undisturbed .light ⟨"secret"⟩ _ none zeroDraw firstDesk reachable .empty
      not_isOn_firstDesk rfl rfl rfl free⟩

end Proofing.Completion
