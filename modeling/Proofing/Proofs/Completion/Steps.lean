import Mathlib.Tactic.Common
import Proofing.Completion.Basic
/-
  Proofing — what the steps at a desk come to.

  * `Step.perform` runs a step; the lemmas on it open a step piece by piece.
  * `Settles` says of a step that it belongs behind the commit: it leaves the
    registry and all of the session but what is staged, and fails for a reason
    that can be made up for later.  `settles_relocate`, `settles_sendLetter`,
    `settles_schedule`, `settles_link` and `settles_follow` say so of all of them.
-/
namespace Proofing.Completion

namespace Step
variable {α β ε : Type}

/-- What a step comes to at a desk, and the desk after it. -/
def perform (x : Step α) (d : Desk) : Except FlowError α × Desk :=
  x.run d

@[simp] theorem perform_pure (a : α) (d : Desk) : perform (pure a : Step α) d = (.ok a, d) := rfl

@[simp] theorem perform_throw (e : FlowError) (d : Desk) :
    perform (throw e : Step α) d = (.error e, d) := rfl

theorem perform_bind (x : Step α) (f : α → Step β) (d : Desk) :
    perform (x >>= f) d =
      match perform x d with
      | (.ok a, d') => perform (f a) d'
      | (.error e, d') => (.error e, d') := by
  have state {γ δ : Type} (m : StateM Desk γ) (g : γ → StateM Desk δ) :
      (m >>= g) d = g (m d).1 (m d).2 := rfl
  simp only [perform, ExceptT.run_bind, state]
  rcases x.run d with ⟨_ | _, d'⟩ <;> rfl

theorem perform_map (f : α → β) (x : Step α) (d : Desk) :
    perform (f <$> x) d = ((perform x d).1.map f, (perform x d).2) := by
  rw [map_eq_pure_bind, perform_bind]
  rcases perform x d with ⟨_ | _, d'⟩ <;> rfl

theorem perform_bind_ok {x : Step α} {d d' : Desk} {a : α} (h : perform x d = (.ok a, d'))
    (f : α → Step β) : perform (x >>= f) d = perform (f a) d' := by
  rw [perform_bind, h]

theorem perform_bind_error {x : Step α} {d d' : Desk} {e : FlowError}
    (h : perform x d = (.error e, d')) (f : α → Step β) :
    perform (x >>= f) d = (.error e, d') := by
  rw [perform_bind, h]

theorem ok_of_perform_bind {x : Step α} {f : α → Step β} {d : Desk} {b : β}
    (h : (perform (x >>= f) d).1 = .ok b) :
    ∃ a d', perform x d = (.ok a, d') ∧ (perform (f a) d').1 = .ok b := by
  rcases hx : perform x d with ⟨e | a, d'⟩
  · rw [perform_bind_error hx] at h; cases h
  · rw [perform_bind_ok hx] at h; exact ⟨a, d', rfl, h⟩

theorem perform_bind_eq_ok {x : Step α} {f : α → Step β} {d d' : Desk} {b : β}
    (h : perform (x >>= f) d = (.ok b, d')) :
    ∃ a d₁, perform x d = (.ok a, d₁) ∧ perform (f a) d₁ = (.ok b, d') := by
  obtain ⟨a, d₁, hx, -⟩ := ok_of_perform_bind (congrArg Prod.fst h)
  exact ⟨a, d₁, hx, (perform_bind_ok hx f).symm.trans h⟩

@[simp] theorem perform_session (d : Desk) : perform session d = (.ok d.session, d) := rfl

@[simp] theorem perform_office (d : Desk) : perform office d = (.ok d.office, d) := rfl

@[simp] theorem perform_setSession (s : Session) (d : Desk) :
    perform (setSession s) d = (.ok (), { d with session := s }) := rfl

@[simp] theorem perform_modifyOffice (f : Office → Office) (d : Desk) :
    perform (modifyOffice f) d = (.ok (), { d with office := f d.office }) := rfl

@[simp] theorem perform_emit (e : Event) (d : Desk) :
    perform (emit e) d =
      (.ok (), { d with office := { d.office with events := d.office.events ++ [e] } }) := rfl

@[simp] theorem perform_lift_ok (wrap : ε → FlowError) (a : α) (d : Desk) :
    perform (lift wrap (.ok a)) d = (.ok a, d) := rfl

@[simp] theorem perform_lift_error (wrap : ε → FlowError) (e : ε) (d : Desk) :
    perform (lift wrap (.error e : Except ε α)) d = (.error (wrap e), d) := rfl

end Step

/-! ## Failures -/

/-- The failure is switched on. -/
def IsOn (o : Office) : Failure → Prop
  | .creates => o.registry.failCreates = true
  | .commits => o.registry.failCommits = true
  | .saves => o.vault.failSaves = true
  | .writes => o.vault.failWrites = true
  | .letters => o.mailroom.fail = true
  | .scheduling => o.enrollments.failScheduling = true
  | .call c => c ∈ o.down

/-- Nothing fails where every switch is off. -/
theorem not_isOn_of_off {o : Office} (creates : o.registry.failCreates = false)
    (commits : o.registry.failCommits = false) (saves : o.vault.failSaves = false)
    (writes : o.vault.failWrites = false) (letters : o.mailroom.fail = false)
    (scheduling : o.enrollments.failScheduling = false) (down : o.down = []) (f : Failure) :
    ¬ IsOn o f := by
  cases f <;> simp [IsOn, *]

/-- A failure that is switched on is the only one that comes to the others. -/
theorem isOn_of_setFailing {o : Office} {f g : Failure} {on : Bool}
    (h : IsOn (o.setFailing f on) g) : IsOn o g ∨ (on = true ∧ g = f) := by
  cases f with
  | call c =>
    cases g with
    | call c' =>
      cases on with
      | true =>
        rcases List.mem_cons.1 h with rfl | h
        exacts [Or.inr ⟨rfl, rfl⟩, Or.inl (List.mem_filter.1 h).1]
      | false => exact Or.inl (List.mem_filter.1 h).1
    | creates | commits | saves | writes | letters | scheduling => exact Or.inl h
  | creates | commits | saves | writes | letters | scheduling =>
    cases g <;> first
      | exact Or.inl h
      | exact Or.inr ⟨h, rfl⟩

/-! ## Single steps -/

section
variable {d : Desk} {user : UserId} {provider : Option ServiceProvider} {profile : ProfileId}

theorem perform_relocate_error {e : StoreFault} (h : d.office.vault.relocate d.session user = .error e) :
    (relocate user).perform d = (.error (.notKept e), d) := by
  simp [relocate, Step.perform_bind, h]

theorem perform_relocate_ok {moved : Bool} {s : Session} {v : Vault}
    (h : d.office.vault.relocate d.session user = .ok (moved, s, v)) :
    (relocate user).perform d = (.ok moved,
      { session := s
        office := { d.office with
          vault := v
          events := d.office.events ++
            if moved then (s.profileId.map Event.piiRelocated).toList else [] } }) := by
  cases moved with
  | false => simp [relocate, Step.perform_bind, Step.perform_map, h, Except.map]
  | true =>
    cases hp : s.profileId <;>
      simp [relocate, Step.perform_bind, Step.perform_map, h, hp, Except.map]

theorem resolvePii_inline {o : Office} {s : Session} {pii : Pii}
    (h : s.held .pii = some (.inline pii)) : resolvePii o s user = .ok pii := by
  simp only [resolvePii, h]

theorem perform_sendLetter_error {pii : Pii} {e : VendorFault}
    (hp : resolvePii d.office d.session user = .ok pii)
    (h : d.office.mailroom.send provider profile = .error e) :
    (sendLetter user profile provider).perform d = (.error (.vendorFailed .letters e), d) := by
  simp [sendLetter, Step.perform_bind, hp, h]

theorem perform_sendLetter_ok {pii : Pii} {code : LetterCode} {m : Mailroom}
    (hp : resolvePii d.office d.session user = .ok pii)
    (h : d.office.mailroom.send provider profile = .ok (code, m)) :
    (sendLetter user profile provider).perform d = (.ok code,
      { d with office := { d.office with
          mailroom := m, events := d.office.events ++ [.letterRequested profile] } }) := by
  simp [sendLetter, Step.perform_bind, Step.perform_map, hp, h, Except.map]

theorem perform_schedule_error {pii : Pii} {e : VendorFault}
    (hp : resolvePii d.office d.session user = .ok pii)
    (h : d.office.enrollments.schedule user = .error e) :
    (schedule user profile).perform d = (.error (.vendorFailed .visits e), d) := by
  simp [schedule, Step.perform_bind, hp, h]

theorem perform_schedule_ok {pii : Pii} {es : Enrollments}
    (hp : resolvePii d.office d.session user = .ok pii)
    (h : d.office.enrollments.schedule user = .ok es) :
    (schedule user profile).perform d = (.ok (),
      { d with office := { d.office with
          enrollments := es, events := d.office.events ++ [.visitScheduled profile] } }) := by
  simp [schedule, Step.perform_bind, hp, h]

theorem scheduleVisit_eq (h : d.session.profileId = some profile) :
    (scheduleVisit user).perform d = (schedule user profile).perform d := by
  simp [scheduleVisit, Step.perform_bind, h]

/-- What linking an enrollment comes to, the call itself included. -/
def linked (o : Office) (enrollment : Enrollment) (profile : ProfileId) :
    Except StoreFault Enrollments := do
  o.reach .link
  o.enrollments.link enrollment profile

theorem perform_link_error {enrollment : Enrollment} {e : StoreFault}
    (h : linked d.office enrollment profile = .error e) :
    (link enrollment profile).perform d = (.error (.notLinked e), d) := by
  rw [linked] at h
  simp [link, Step.perform_bind, h]

theorem perform_link_ok {enrollment : Enrollment} {es : Enrollments}
    (h : linked d.office enrollment profile = .ok es) :
    (link enrollment profile).perform d = (.ok (),
      { d with office := { d.office with
          enrollments := es
          events := d.office.events ++ [.enrollmentLinked profile enrollment.id] } }) := by
  rw [linked] at h
  simp [link, Step.perform_bind, h]

end

/-- A session once it records a committed profile. -/
def recorded (s : Session) (p : Profile) (applicant : Pii) : Session :=
  ((s.put .profileId (some p.id)).put .pii (some (.inline applicant))).put .personalKey p.personalKey

theorem perform_record {d : Desk} (p : Profile) (applicant : Pii) (h : d.session.profileId = none) :
    (record p applicant).perform d = (.ok (),
      { session := recorded d.session p applicant
        office := { d.office with
          events := d.office.events ++ [.profileCreated p.id p.user p.holds] } }) := by
  have hset : d.session.setProfileId (some p.id) = .ok (d.session.put .profileId (some p.id)) := by
    simp only [Session.profileId] at h
    simp only [Session.setProfileId, Attributes.setProfileId, h]
    rfl
  simp [record, recorded, Step.perform_bind, hset]

/-! ## Behind the commit -/

end Completion

/-- The reasons for which no profile is made. -/
def FlowError.IsEarly : FlowError → Prop
  | profileExists _ | noApplicant | sealing _ | notCreated _ => True
  | _ => False

/-- The reasons for which a step fails once the profile is made. -/
def FlowError.IsLate : FlowError → Prop
  | notKept _ | notLinked _ | vendorFailed _ _ => True
  | _ => False

theorem Vault.relocate_session {v v' : Vault} {s s' : Session} {user : UserId} {moved : Bool}
    (h : v.relocate s user = .ok (moved, s', v')) : ∃ staged, s' = { s with staged } := by
  unfold relocate at h
  split at h
  · split at h
    · rename_i id t hid ht
      cases hv : v.persist user id t with
      | error e => rw [hv] at h; cases h
      | ok w => rw [hv] at h; cases h; exact ⟨none, rfl⟩
    · cases h; exact ⟨s.staged, rfl⟩
  · cases h; exact ⟨s.staged, rfl⟩

namespace Completion

/-- The registry is as it was, and the session too, but for what is staged. -/
structure Behind (d d' : Desk) : Prop where
  registry : d'.office.registry = d.office.registry
  down : d'.office.down = d.office.down
  session : ∃ staged, d'.session = { d.session with staged }

theorem Behind.refl (d : Desk) : Behind d d :=
  ⟨rfl, rfl, d.session.staged, rfl⟩

theorem Behind.trans {d d' d'' : Desk} (h : Behind d d') (h' : Behind d' d'') : Behind d d'' := by
  obtain ⟨hr, hd, t, hs⟩ := h
  obtain ⟨hr', hd', t', hs'⟩ := h'
  exact ⟨hr'.trans hr, hd'.trans hd, t', by rw [hs', hs]⟩

theorem Behind.held {d d' : Desk} (h : Behind d d') (slot : Slot) :
    d'.session.held slot = d.session.held slot := by
  obtain ⟨-, -, t, hs⟩ := h
  rw [hs]; rfl

theorem Behind.profileId {d d' : Desk} (h : Behind d d') :
    d'.session.profileId = d.session.profileId :=
  h.held .profileId

/-- The step belongs behind the commit. -/
structure Settles {α : Type} (x : Step α) (d : Desk) : Prop where
  behind : Behind d (x.perform d).2
  late : ∀ e, (x.perform d).1 = .error e → e.IsLate

section
variable {α β : Type} {d d' : Desk} {x : Step α} {user : UserId} {provider : Option ServiceProvider}
  {profile : ProfileId}

theorem Settles.of_ok {a : α} (h : x.perform d = (.ok a, d')) (hb : Behind d d') : Settles x d :=
  ⟨by rw [h]; exact hb, fun e he => by rw [h] at he; cases he⟩

theorem Settles.of_error {e : FlowError} (h : x.perform d = (.error e, d')) (hb : Behind d d')
    (he : e.IsLate) : Settles x d :=
  ⟨by rw [h]; exact hb, fun e' he' => by rw [h] at he'; cases he'; exact he⟩

theorem Settles.behind_of (hx : Settles x d) {r : Except FlowError α} (h : x.perform d = (r, d')) :
    Behind d d' := by
  have hb := hx.behind
  rwa [h] at hb

theorem settles_pure (a : α) (d : Desk) : Settles (pure a) d :=
  .of_ok rfl (.refl d)

theorem settles_emit (e : Event) (d : Desk) : Settles (Step.emit e) d :=
  .of_ok (Step.perform_emit e d) ⟨rfl, rfl, d.session.staged, rfl⟩

theorem Settles.bind {f : α → Step β} (hx : Settles x d)
    (hf : ∀ a d', x.perform d = (.ok a, d') → Behind d d' → Settles (f a) d') :
    Settles (x >>= f) d := by
  rcases hp : x.perform d with ⟨e | a, d'⟩
  · exact .of_error (Step.perform_bind_error hp f) (hx.behind_of hp) (hx.late e (by rw [hp]))
  · have hb : Behind d d' := hx.behind_of hp
    obtain ⟨hbehind, hlate⟩ := hf a d' hp hb
    rw [← Step.perform_bind_ok hp f] at hbehind hlate
    exact ⟨hb.trans hbehind, hlate⟩

theorem settles_relocate : Settles (relocate user) d := by
  cases h : d.office.vault.relocate d.session user with
  | error e => exact .of_error (perform_relocate_error h) (.refl d) trivial
  | ok r =>
    obtain ⟨moved, s, v⟩ := r
    exact .of_ok (perform_relocate_ok h) ⟨rfl, rfl, Vault.relocate_session h⟩

theorem settles_sendLetter {pii : Pii} (hp : d.session.held .pii = some (.inline pii)) :
    Settles (sendLetter user profile provider) d := by
  have hp' : resolvePii d.office d.session user = .ok pii := resolvePii_inline hp
  cases h : d.office.mailroom.send provider profile with
  | error e => exact .of_error (perform_sendLetter_error hp' h) (.refl d) trivial
  | ok r => exact .of_ok (perform_sendLetter_ok hp' h) ⟨rfl, rfl, d.session.staged, rfl⟩

theorem settles_schedule {pii : Pii} (hp : d.session.held .pii = some (.inline pii)) :
    Settles (schedule user profile) d := by
  have hp' : resolvePii d.office d.session user = .ok pii := resolvePii_inline hp
  cases h : d.office.enrollments.schedule user with
  | error e => exact .of_error (perform_schedule_error hp' h) (.refl d) trivial
  | ok r => exact .of_ok (perform_schedule_ok hp' h) ⟨rfl, rfl, d.session.staged, rfl⟩

theorem settles_link {enrollment : Enrollment} : Settles (link enrollment profile) d := by
  cases h : linked d.office enrollment profile with
  | error e => exact .of_error (perform_link_error h) (.refl d) trivial
  | ok r => exact .of_ok (perform_link_ok h) ⟨rfl, rfl, d.session.staged, rfl⟩

theorem settles_follow {pii : Pii} (hp : d.session.held .pii = some (.inline pii))
    (enrollment : Option Enrollment) (activation : Activation) :
    Settles (follow user provider enrollment profile activation) d := by
  cases activation with
  | activated =>
    refine (settles_emit _ d).bind fun _ _ _ _ => ?_
    exact settles_relocate.bind fun _ _ _ _ => settles_pure _ _
  | blocked hold =>
    refine (Settles.of_ok (Step.perform_session d) (.refl d)).bind fun s d' _ hb => ?_
    rw [← hb.held .pii] at hp
    split
    · refine settles_relocate.bind fun _ d'' _ hb' => ?_
      rw [← hb'.held .pii] at hp
      exact (settles_sendLetter hp).bind fun _ _ _ _ => settles_pure _ _
    · split
      · exact (settles_schedule hp).bind fun _ _ _ _ => settles_pure _ _
      · exact settles_pure _ _

end

end Proofing.Completion
