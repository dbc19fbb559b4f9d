import Proofing.Proofs.Completion.Confluence
import Proofing.Proofs.Completion.Locked
/-
  Proofing — the status that is told, and the one that is stored.

  The outcome of a flow tells the status of its profile by the way that the profile
  has gone; `Status.of` reads it off the stored profile, by the first of its holds.

  * `Activation.told` is the former as a function of the way; with neither a letter
    nor a visit it is the latter (`of_upcoming`), and `status_of_complete` is both;
  * `Attempted` puts the two side by side;
  * `LetterFirst` and `VisitFirst` are where a way is gone before the first hold
    is dealt with, and `statuses_compared`: only there do the two differ;
  * `held_personalKey_run`: nothing but its acknowledgement takes the personal key
    from the session, and so the phase shows the stored status up to then.
-/
namespace Proofing

namespace Registry

/-- A row that is written is found, whatever rows there were. -/
theorem find?_place_self (r : Registry) (p : Profile) :
    ({ r with rows := place p r.rows } : Registry).find? p.id = some p := by
  change (place p r.rows).find? (·.id == p.id) = some p
  induction r.rows with
  | nil => simp [place]
  | cons q rows ih =>
    unfold place
    split
    · simp
    · split
      · simp
      · rw [List.find?_cons_of_neg (by simpa using ‹q.id ≠ p.id›), ih]

end Registry

/-- The session has the personal key of the profile yet, and so its phase is the profile's status. -/
theorem Session.phase_of_personalKey {s : Session} {p : Profile} (h : s.profileId = some p.id)
    (hk : (s.held .personalKey).isSome) : s.phase (some p) = .profileCreated (Status.of p) := by
  have hkey : (s.held .personalKey).isNone = false := by simpa using hk
  simp [Session.phase, h, hkey, Option.filter]

/-- The status that is told of a profile that goes by letter, or else to a visit, or neither. -/
def Activation.told (byLetter visit : Bool) : Activation → Status
  | .activated => .activated
  | .blocked hold =>
    if byLetter then .pendingLetter else if visit then .pendingVisit else .ofHold hold

namespace Completion

/-! ## Two statuses -/

section
variable {config : Config} {password : Password} {user : UserId} {provider : Option ServiceProvider}
  {draw : Draft.Draw} {d d' : Desk} {out : Outcome} {profile : ProfileId} {activation : Activation}

theorem status_of_follow {enrollment : Option Enrollment} {status : Status}
    {code : Option LetterCode}
    (h : (follow user provider enrollment profile activation).perform d = (.ok (status, code), d')) :
    status = activation.told d.session.address.byLetter enrollment.isSome := by
  cases activation with
  | activated =>
    rw [follow, Step.perform_bind_ok (Step.perform_emit _ _)] at h
    obtain ⟨_, _, -, h⟩ := Step.perform_bind_eq_ok h
    cases h
    rfl
  | blocked hold =>
    rw [follow, Step.perform_bind_ok (Step.perform_session _)] at h
    cases hb : d.session.address.byLetter with
    | true =>
      rw [hb, if_pos rfl] at h
      obtain ⟨_, _, -, h⟩ := Step.perform_bind_eq_ok h
      obtain ⟨_, _, -, h⟩ := Step.perform_bind_eq_ok h
      cases h
      rfl
    | false =>
      rw [hb, if_neg Bool.false_ne_true] at h
      cases enrollment with
      | some e =>
        obtain ⟨_, _, -, h⟩ := Step.perform_bind_eq_ok h
        cases h
        rfl
      | none =>
        cases h
        rfl

/-- The status of a new profile is that of its first hold, as if it went neither way. -/
theorem of_upcoming {r : Registry} {draft : Draft} {p : Profile}
    (h : (activation, p) = upcoming r draft) :
    Status.of p.withoutKey = some (activation.told false false) := by
  have hold? : p.withoutKey.hold? = p.holds.head? := rfl
  have active : p.withoutKey.active = p.active := rfl
  rcases upcoming_cases h with ⟨hholds, rfl, hactive⟩ | ⟨hold, hhead, rfl, hactive⟩
  · rw [Status.of, active, hactive, if_pos rfl]
    rfl
  · rw [Status.of, active, hactive, if_neg Bool.false_ne_true, hold?, hhead]
    rfl

/-- What a completed flow tells, and what it leaves: the profile of its transaction, noted in the
    session with its personal key, and a status that follows from the way that the profile went. -/
theorem status_of_complete
    (h : (complete config password user provider draw).perform d = (.ok out, d')) :
    ∃ p q activation r, prepare config d.session d.office password user provider draw = .ok p ∧
      persist d.office p.draft = (.ok (q, activation), r) ∧ d'.office.registry = r ∧
      out.profile = q.id ∧ d'.session.profileId = some q.id ∧
      (d'.session.held .personalKey).isSome ∧
      out.status = activation.told (d.session.held .mechanism == some .letter) p.enrollment.isSome := by
  cases hp : prepare config d.session d.office password user provider draw with
  | error e =>
    rw [complete_of_prepare_error hp] at h
    cases h
  | ok p =>
    rcases hc : persist d.office p.draft with ⟨e | ⟨q, activation⟩, r⟩
    · rw [complete_of_persist_error hp hc] at h
      cases h
    · have hregistry := registry_of_persist hp hc
      rw [h] at hregistry
      refine ⟨p, q, activation, r, rfl, hc, hregistry, ?_⟩
      rw [complete_of_persist_ok hp hc] at h
      generalize hd : ({ d with office := { d.office with registry := r } } : Desk) = c at h
      have hid : c.session.profileId = none := by rw [← hd]; exact (prepare_ok_iff.1 hp).1
      have hbehind := (behind_settle hid password user provider p q activation).1
      rw [h] at hbehind
      refine ⟨(outcome_settle hid password user provider p q activation (congrArg Prod.fst h)).1,
        ?_, ?_, ?_⟩
      · rw [hbehind.profileId]
        exact held_recorded_profileId _ _ _
      · have hkey : q.personalKey = some (.draw draw.personalKey) := personalKey_of_persist hp hc
        rw [hbehind.held .personalKey, ← Option.isSome_some]
        exact congrArg Option.isSome ((held_recorded_personalKey _ _ _).trans hkey)
      · rw [settle_eq_depart hid] at h
        obtain ⟨_, n, happroach, h⟩ := Step.perform_bind_eq_ok h
        obtain ⟨⟨status, code⟩, _, hfollow, h⟩ := Step.perform_bind_eq_ok h
        cases h
        have haddress : n.session.address = d.session.address := by
          rw [(settles_approach.behind_of happroach).address, ← hd]
          exact address_recorded _ _ _
        rw [status_of_follow hfollow, haddress]
        rfl

/-! ## What they are made of -/

/-- What blocks a new profile is the first of what it awaits. -/
theorem activation_of_persist {p : Prepared} {q : Profile} {r : Registry}
    (hp : prepare config d.session d.office password user provider draw = .ok p)
    (h : persist d.office p.draft = (.ok (q, activation), r)) :
    activation =
      if underReview config d.session then .blocked (.fraudReview (reviewHold d.session))
      else if letterAwaited d.session then .blocked .letter
      else if visitAwaited d.office user then .blocked .inPerson else .activated := by
  have hholds := holds_of_persist hp h
  unfold awaited at hholds
  rcases upcoming_cases (persist_ok h).2.1 with ⟨hnone, rfl, -⟩ | ⟨hold, hhead, rfl, -⟩
  · rw [hholds] at hnone
    grind
  · rw [hholds] at hhead
    grind

/-- The hold that a review means is what the profile is stored with. -/
theorem fraud_of_persist {p : Prepared} {q : Profile} {r : Registry}
    (hp : prepare config d.session d.office password user provider draw = .ok p)
    (h : persist d.office p.draft = (.ok (q, activation), r)) :
    q.fraud = if underReview config d.session then some (reviewHold d.session) else none := by
  obtain ⟨-, -, hdraft⟩ := Draft.make_ok (prepare_ok_iff.1 hp).2.2.2
  have hfraud : q.fraud = p.draft.fraud := congrArg (·.fraud) (lasting_of_persist h)
  rw [hfraud, hdraft]
  exact fraudHold_eq

theorem letterAwaited_eq (s : Session) :
    letterAwaited s = (s.held .mechanism == some .letter || !s.phoneConfirmed) :=
  needsLetter_eq.symm

/-- An attempt to activate a new profile, and the two statuses that follow from it. -/
structure Attempted (config : Config) (user : UserId) (d : Desk) (activation : Activation)
    (out : Outcome) (q : Profile) : Prop where
  cause : activation =
    if underReview config d.session then .blocked (.fraudReview (reviewHold d.session))
    else if letterAwaited d.session then .blocked .letter
    else if visitAwaited d.office user then .blocked .inPerson else .activated
  told : out.status =
    activation.told (d.session.held .mechanism == some .letter) (visitAwaited d.office user)
  stored : Status.of q = some (activation.told false false)
  review : q.fraud = if underReview config d.session then some (reviewHold d.session) else none

/-- The letter is sent although a review comes first. -/
def LetterFirst (config : Config) (d : Desk) : Prop :=
  d.session.held .mechanism = some .letter ∧ underReview config d.session = true

/-- The visit is scheduled although a review or a letter comes first. -/
def VisitFirst (config : Config) (user : UserId) (d : Desk) : Prop :=
  d.session.held .mechanism ≠ some .letter ∧ visitAwaited d.office user = true ∧
    (underReview config d.session = true ∨ d.session.phoneConfirmed = false)

namespace Attempted
variable {q : Profile} (h : Attempted config user d activation out q)
include h

theorem letterFirst (first : LetterFirst config d) :
    out.status = .pendingLetter ∧
      Status.of q = some (.pendingFraudReview (reviewHold d.session)) := by
  obtain ⟨hm, hreview⟩ := first
  have hact := h.cause
  rw [hreview, if_pos rfl] at hact
  rw [h.told, h.stored, hact, hm]
  exact ⟨rfl, rfl⟩

theorem visitFirst (first : VisitFirst config user d) :
    out.status = .pendingVisit ∧
      Status.of q = some
        (if underReview config d.session then .pendingFraudReview (reviewHold d.session)
          else .pendingLetter) := by
  obtain ⟨hm, hvisit, hcause⟩ := first
  have hletter : (d.session.held .mechanism == some .letter) = false := by simpa using hm
  have hact : activation =
      if underReview config d.session then .blocked (.fraudReview (reviewHold d.session))
      else .blocked .letter := by
    rw [h.cause, letterAwaited_eq]
    rcases hcause with hcause | hcause <;> simp [hcause]
  rw [h.told, h.stored, hact, hletter, hvisit]
  split <;> exact ⟨rfl, rfl⟩

/-- Otherwise the way that is gone is that of the first hold. -/
theorem same (notLetter : ¬ LetterFirst config d) (notVisit : ¬ VisitFirst config user d) :
    Status.of q = some out.status := by
  rw [h.told, h.stored]
  by_cases hm : d.session.held .mechanism = some .letter
  · have hfree : underReview config d.session = false := by simpa [LetterFirst, hm] using notLetter
    rw [h.cause, letterAwaited_eq, hm, hfree]
    rfl
  · have hletter : (d.session.held .mechanism == some .letter) = false := by simpa using hm
    rw [hletter]
    cases hvisit : visitAwaited d.office user with
    | false => rfl
    | true =>
      have hfree : underReview config d.session = false ∧ d.session.phoneConfirmed = true := by
        simpa [VisitFirst, hm, hvisit] using notVisit
      rw [h.cause, letterAwaited_eq, hletter, hvisit, hfree.1, hfree.2]
      rfl

/-- A blocked profile awaits something, whichever way it goes. -/
theorem alike : (out.status = .activated ∧ Status.of q = some .activated) ∨
    (out.status.isPending = true ∧ ∃ status, Status.of q = some status ∧ status.isPending = true) := by
  have blocked (byLetter visit : Bool) (hold : Hold) :
      ((Activation.blocked hold).told byLetter visit).isPending = true := by
    cases byLetter <;> cases visit <;> cases hold <;> rfl
  rw [h.told, h.stored]
  cases activation with
  | activated => exact .inl ⟨rfl, rfl⟩
  | blocked hold => exact .inr ⟨blocked _ _ _, _, rfl, blocked _ _ _⟩

end Attempted

/-! ## Up to the acknowledgement -/

/-- The deed may take the personal key from the session. -/
def Deed.ForgetsKey : Deed → Prop
  | act .acknowledgeKey => True
  | act (.set name _) => name = (Attribute.slot .personalKey).name
  | _ => False

/-- No other act takes the personal key from a session with a profile. -/
theorem held_personalKey_perform {s s' : Session} {a : Act} {id : ProfileId}
    (h : Session.perform config s a = some s') (under : s.Under config)
    (hid : s.profileId = some id) (keeps : ¬ (Deed.act a).ForgetsKey) :
    s'.held .personalKey = s.held .personalKey := by
  cases a with
  | set name value =>
    rcases Session.set_ok (Session.perform_set h) with ⟨-, rfl⟩ | ⟨a, as, rfl, has, rfl⟩
    · rfl
    · rcases Attributes.set_cases has with ⟨slot, x, rfl, -, rfl, -⟩ | ⟨-, x, -, rfl⟩ |
        ⟨-, x, p, -, -, rfl⟩
      · refine Attributes.held_put_of_ne _ _ ?_
        rintro rfl
        exact keeps rfl
      · rfl
      · rfl
  | reset r =>
    cases h
    rw [Session.reset_of_profileId hid]
  | markResolved => cases h; exact Attributes.held_put_of_ne _ _ (by decide)
  | confirmAddress => cases h; exact Attributes.held_put_of_ne _ _ (by decide)
  | sendCode code => cases h; rfl
  | noteRejected normalizer raw =>
    obtain ⟨_, rejected, -, rfl⟩ := Session.perform_noteRejected h
    rfl
  | acknowledgeKey => exact absurd trivial keeps
  | reload web =>
    cases h
    rw [Session.load_store_eq under]
    rfl

theorem held_personalKey_next {id : ProfileId} (under : d.session.Under config)
    (hid : d.session.profileId = some id) {a : Deed} (keeps : ¬ a.ForgetsKey) :
    (a.next config d).session.held .personalKey = d.session.held .personalKey := by
  cases a with
  | act a =>
    rw [Deed.next]
    cases h : Session.perform config d.session a with
    | none => rfl
    | some s => exact held_personalKey_perform h under hid keeps
  | setProfileId v =>
    rw [Deed.next, Session.setProfileId_of_profileId hid]
    split <;> rfl
  | complete password user provider draw => rw [Deed.next, complete_of_profileId hid]
  | move m user =>
    obtain ⟨staged, hs⟩ := session_move m user d
    rw [Deed.next, hs]
    rfl
  | elsewhere office => rfl

/-- The personal key stays in the session until it is acknowledged. -/
theorem held_personalKey_run {id : ProfileId} (under : d.session.Under config)
    (hid : d.session.profileId = some id) {later : List Deed}
    (keeps : ∀ a ∈ later, ¬ a.ForgetsKey) :
    (Deed.run config d later).session.held .personalKey = d.session.held .personalKey := by
  induction later generalizing d with
  | nil => rfl
  | cons a later ih =>
    have hnext := held_personalKey_next under hid (keeps a List.mem_cons_self)
    exact (ih (under_next under a) (profileId_next under hid a)
      fun b hb => keeps b (List.mem_cons_of_mem a hb)).trans hnext

/-! ## The two together -/

/-- The status that an outcome tells beside that of the profile that is found under its number. -/
structure Compared (config : Config) (user : UserId) (d : Desk) (out : Outcome) (d' : Desk)
    (q : Profile) : Prop where
  found : d'.office.registry.find? out.profile = some q
  review : q.fraud = if underReview config d.session then some (reviewHold d.session) else none
  differ : Status.of q ≠ some out.status ↔ LetterFirst config d ∨ VisitFirst config user d
  letterFirst : LetterFirst config d → out.status = .pendingLetter ∧
    Status.of q = some (.pendingFraudReview (reviewHold d.session))
  visitFirst : VisitFirst config user d → out.status = .pendingVisit ∧
    Status.of q = some
      (if underReview config d.session then .pendingFraudReview (reviewHold d.session)
        else .pendingLetter)
  /-- Either the profile is active by both, or something is awaited by both. -/
  alike : (out.status = .activated ∧ Status.of q = some .activated) ∨
    (out.status.isPending = true ∧ ∃ status, Status.of q = some status ∧ status.isPending = true)
  /-- The phase shows the status of the profile. -/
  phase : d'.session.phase (some q) = .profileCreated (Status.of q)
  /-- So it does until the personal key is acknowledged, whatever else is done. -/
  later : d.session.Under config → ∀ later, (∀ a ∈ later, ¬ a.ForgetsKey) →
    (Deed.run config d' later).session.phase (some q) = .profileCreated (Status.of q)

/-- **The two statuses agree** on whether a profile is active, and differ only where a letter is sent
    or a visit scheduled before the first hold is dealt with. -/
theorem statuses_compared
    (h : (complete config password user provider draw).perform d = (.ok out, d')) :
    ∃ q, Compared config user d out d' q := by
  obtain ⟨p, q, activation, r, hp, hc, hregistry, hnumber, hid, hkey, htold⟩ := status_of_complete h
  have attempted : Attempted config user d activation out q.withoutKey := by
    constructor
    case cause => exact activation_of_persist hp hc
    case told =>
      rwa [eq_of_openEnrollment (prepare_ok_iff.1 hp).2.2.1, establishing?_isSome] at htold
    case stored => exact of_upcoming (persist_ok hc).2.1
    case review => exact (fraud_of_persist hp hc :)
  refine ⟨q.withoutKey, ?_⟩
  constructor
  case found =>
    rw [hregistry, hnumber, (persist_ok hc).2.2]
    exact Registry.find?_place_self { d.office.registry with nextId := _ } q.withoutKey
  case review => exact attempted.review
  case differ =>
    constructor
    · intro ne
      by_contra neither
      rw [not_or] at neither
      exact ne (attempted.same neither.1 neither.2)
    · rintro (first | first)
      · obtain ⟨hout, hof⟩ := attempted.letterFirst first
        simp [hout, hof]
      · obtain ⟨hout, hof⟩ := attempted.visitFirst first
        rw [hout, hof]
        split <;> simp
  case letterFirst => exact attempted.letterFirst
  case visitFirst => exact attempted.visitFirst
  case alike => exact attempted.alike
  case phase => exact Session.phase_of_personalKey hid hkey
  case later =>
    intro under later keeps
    have hunder : d'.session.Under config := by
      obtain ⟨attributes, staged, hs⟩ := session_complete config password user provider draw d
      rw [h] at hs
      rw [hs]
      exact under.update ..
    refine Session.phase_of_personalKey (profileId_run hunder hid later) ?_
    rw [held_personalKey_run hunder hid keeps]
    exact hkey

end

open Registry.Traffic (zeroUser)

/-- Verdicts on devices hold profiles back. -/
def decisive : Config :=
  { Config.light with decisioning := true }

/-- A session of a user with an open enrollment, after a bad verdict on the device. -/
def enrolledDesk : Desk where
  session := firstDesk.session.put .deviceReview (some .reject)
  office := { firstDesk.office with enrollments := (Enrollments.empty.establish zeroUser).2 }

/-- The visit is scheduled while the stored profile awaits a review and a letter. -/
theorem statuses_compared_enrolled : ∃ out d' q,
    (complete decisive ⟨"secret"⟩ zeroUser none zeroDraw).perform enrolledDesk = (.ok out, d') ∧
      Compared decisive zeroUser enrolledDesk out d' q ∧ VisitFirst decisive zeroUser enrolledDesk ∧
      out.status = .pendingVisit ∧ Status.of q = some (.pendingFraudReview .reject) := by
  have quiet := not_isOn_of_off (o := enrolledDesk.office) rfl rfl rfl rfl rfl rfl rfl
  have reachable : enrolledDesk.office.registry.Reachable := Registry.reachable_empty ⟨7⟩
  obtain ⟨p, q, activation, r, hp, hc⟩ := @exists_commit_of_quiet enrolledDesk zeroUser none
    decisive ⟨"secret"⟩ zeroDraw .empty quiet (by decide) (by decide) rfl
    (fun q hq => absurd hq List.not_mem_nil)
  obtain ⟨out, d', h, -⟩ := exists_undisturbed reachable (.establish .empty zeroUser) quiet hp hc
  obtain ⟨q, compared⟩ := statuses_compared h
  have first : VisitFirst decisive zeroUser enrolledDesk :=
    ⟨by decide, by decide, .inl (by decide)⟩
  obtain ⟨hout, hof⟩ := compared.visitFirst first
  exact ⟨out, d', q, h, compared, first, hout, hof⟩

end Completion

end Proofing
