import Proofing.Proofs.Completion.Evidence
import Proofing.Proofs.Completion.Recovery
import Proofing.Proofs.Completion.Success
/-
  Proofing — a failure behind the commit can be made up for without a trace.

  * `calm` takes away the failures that can be met behind the commit: of vault
    writes, of letters, of scheduling, and of looking the profile up again;
  * a step `Stalls` if all that these failures do to it is to stop it before it
    has done anything: `stalls_relocate`, `stalls_sendLetter`, `stalls_schedule`;
  * up to the parting of the ways they are not met at all (`exists_parting`);
  * `makeUp` does what is left to do after a failure; `follow_confluent` goes
    through the ways, and `complete_confluent` is about the whole step.
-/
namespace Proofing

/-- The services without the failures that can be met behind the commit. -/
def Office.calm (o : Office) : Office :=
  [.writes, .letters, .scheduling, .call .find].foldl (fun o f => o.setFailing f false) o

theorem Office.reach_calm {o : Office} {c : Call} (h : c ≠ .find) : o.calm.reach c = o.reach c := by
  simp [reach, calm, setFailing, List.mem_filter, h]

theorem Office.reach_find_calm (o : Office) : o.calm.reach .find = .ok () := by
  simp [reach, calm, setFailing, List.mem_filter]

/-- What is taken into the vault does not depend on whether it might have failed. -/
theorem Vault.relocate_working {v v' : Vault} {s s' : Session} {user : UserId} {moved : Bool}
    (h : v.relocate s user = .ok (moved, s', v')) :
    { v with failWrites := false }.relocate s user = .ok (moved, s', { v' with failWrites := false }) := by
  unfold relocate at h ⊢
  split at h
  · rename_i hs
    rw [if_pos hs]
    split at h
    · rename_i id t hid ht
      unfold persist at h ⊢
      split at h
      · cases h
      · cases ht' : t.toPii? with
        | none => rw [ht'] at h; cases h
        | some pii => rw [ht'] at h; cases h; rfl
    · cases h; rfl
  · rename_i hs
    rw [if_neg hs]
    cases h; rfl

theorem Enrollments.link_working {es : Enrollments} {e : Enrollment} {profile : ProfileId} :
    { es with failScheduling := false }.link e profile =
      (es.link e profile).map fun es => { es with failScheduling := false } := by
  unfold link
  cases (es.ofUser e.user).filter (·.id == e.id) <;> rfl

theorem Enrollments.schedule_working {es es' : Enrollments} {user : UserId}
    (h : es.schedule user = .ok es') :
    { es with failScheduling := false }.schedule user = .ok { es' with failScheduling := false } := by
  unfold schedule at h ⊢
  split at h
  · cases h
  · cases hu : es.ofUser user with
    | none => rw [hu] at h; cases h
    | some e => rw [hu] at h; cases h; rfl

/-- What is staged for a profile is what the caller has. -/
theorem Vault.staged_eq {v : Vault} {password : Password} {q : Profile} {pii : Pii} {t : StagedText}
    (h : v.stage password q pii = .ok t) : t = .ofPii pii := by
  unfold stage at h
  cases hs : v.failSaves with
  | true => rw [hs] at h; cases h
  | false =>
    cases hu : q.pii.unlock password with
    | error e => simp only [hs, hu] at h; cases h
    | ok found =>
      by_cases hf : found = pii
      · simp [hs, hu, hf, Except.mapError, bind, Except.bind, pure, Except.pure] at h
        exact h.symm
      · simp [hs, hu, hf, Except.mapError, bind, Except.bind, throw, throwThe,
          MonadExceptOf.throw] at h

namespace Completion

/-- A desk without the failures that can be met behind the commit. -/
def calm (d : Desk) : Desk :=
  { d with office := d.office.calm }

section
variable {d : Desk} {config : Config} {s : Session} {o : Office} {password : Password}
  {user : UserId} {provider : Option ServiceProvider} {draw : Draft.Draw} {profile : ProfileId}
  {pii : Pii}

/-! ## Up to the parting of the ways -/

theorem prepare_calm : prepare config s o.calm password user provider draw =
    prepare config s o password user provider draw := by
  have hopen : openEnrollment o.calm user = openEnrollment o user := by
    rw [openEnrollment, Office.reach_calm (by decide)]
    rfl
  simp only [prepare, hopen]

theorem persist_calm {draft : Draft} : persist o.calm draft = persist o draft := by
  rw [persist, Office.reach_calm (by decide)]
  rfl

theorem linked_calm {enrollment : Enrollment} : linked o.calm enrollment profile =
    (linked o enrollment profile).map fun es => { es with failScheduling := false } := by
  rw [linked, linked, Office.reach_calm (by decide)]
  cases o.reach .link with
  | error e => rfl
  | ok _ => exact Enrollments.link_working

theorem approach_of_stage_error {p : Prepared} {q : Profile} {e : StoreFault}
    (h : d.office.vault.stage password q p.applicant = .error e) :
    (approach password p q).perform d = (.error (.notKept e), d) := by
  simp [approach, Step.perform_bind, h]

theorem approach_of_stage_ok {p : Prepared} {q : Profile} {t : StagedText}
    (h : d.office.vault.stage password q p.applicant = .ok t) :
    (approach password p q).perform d =
      (match p.enrollment with
        | none => pure ()
        | some enrollment => link enrollment q.id : Step Unit).perform
          { d with session := d.session.stage t } := by
  unfold approach
  cases p.enrollment <;> simp [Step.perform_bind, h]

theorem link_calm {enrollment : Enrollment} : (link enrollment profile).perform (calm d) =
    (((link enrollment profile).perform d).1, calm ((link enrollment profile).perform d).2) := by
  have hcalm := @linked_calm d.office profile enrollment
  cases h : linked d.office enrollment profile with
  | error e =>
    rw [h] at hcalm
    rw [perform_link_error h, perform_link_error (d := calm d) hcalm]
  | ok es =>
    rw [h] at hcalm
    rw [perform_link_ok h, perform_link_ok (d := calm d) hcalm]
    rfl

theorem approach_calm {p : Prepared} {q : Profile} :
    (approach password p q).perform (calm d) =
      (((approach password p q).perform d).1, calm ((approach password p q).perform d).2) := by
  cases h : d.office.vault.stage password q p.applicant with
  | error e => rw [approach_of_stage_error h, approach_of_stage_error (d := calm d) h]
  | ok t =>
    rw [approach_of_stage_ok h, approach_of_stage_ok (d := calm d) h]
    cases p.enrollment with
    | none => rfl
    | some enrollment => exact @link_calm { d with session := d.session.stage t } q.id enrollment

theorem approach_of_calm {p : Prepared} {q : Profile} {d₁ : Desk}
    (h : (approach password p q).perform (calm d) = (.ok (), d₁)) :
    ∃ n, (approach password p q).perform d = (.ok (), n) ∧ d₁ = calm n ∧ Behind d n := by
  have hsame := @approach_calm d password p q
  rcases hn : (approach password p q).perform d with ⟨e | _, n⟩ <;> rw [hn, h] at hsame
  · cases hsame
  · exact ⟨n, rfl, congrArg Prod.snd hsame, settles_approach.behind_of hn⟩

theorem staged_of_approach {p : Prepared} {q : Profile} {n : Desk}
    (h : (approach password p q).perform d = (.ok (), n)) :
    n.session.staged = some (.ofPii p.applicant) ∧ n.office.vault = d.office.vault := by
  cases hs : d.office.vault.stage password q p.applicant with
  | error e =>
    rw [approach_of_stage_error hs] at h
    cases h
  | ok t =>
    rw [approach_of_stage_ok hs, Vault.staged_eq hs] at h
    cases hp : p.enrollment with
    | none => rw [hp] at h; cases h; exact ⟨rfl, rfl⟩
    | some enrollment =>
      rw [hp] at h
      generalize hn : ({ d with session := d.session.stage (.ofPii p.applicant) } : Desk) = d₁ at h
      cases hl : linked d₁.office enrollment q.id with
      | error e => rw [show _ = _ from perform_link_error hl] at h; cases h
      | ok es => rw [show _ = _ from perform_link_ok hl] at h; cases h; rw [← hn]; exact ⟨rfl, rfl⟩

/-- The session at the desk has a profile that is in the registry, and its data at hand. -/
structure Filed (id : ProfileId) (n : Desk) : Prop where
  profileId : n.session.profileId = some id
  pii : ∃ pii, n.session.held .pii = some (.inline pii)
  row : (n.office.registry.find? id).isSome

theorem Filed.behind {id : ProfileId} {n n' : Desk} (h : Filed id n) (hb : Behind n n') :
    Filed id n' := by
  obtain ⟨pii, hp⟩ := h.pii
  exact ⟨hb.profileId.trans h.profileId, ⟨pii, (hb.held .pii).trans hp⟩, by
    rw [hb.registry]; exact h.row⟩

theorem filed_noted {draft : Draft} {q : Profile} {activation : Activation}
    (h : persist o draft = (.ok (q, activation), d.office.registry)) (applicant : Pii) :
    Filed q.id (noted d q applicant) := by
  refine ⟨held_recorded_profileId _ _ _, ⟨applicant, held_recorded_pii _ _ _⟩, ?_⟩
  have hmem : q.withoutKey ∈ d.office.registry.rows := by
    rw [(persist_ok h).2.2]
    exact Registry.mem_place_self _ _
  exact List.find?_isSome.2 ⟨_, hmem, by simp [Profile.withoutKey_id]⟩

theorem Filed.calm {id : ProfileId} {n : Desk} (h : Filed id n) : Filed id (calm n) :=
  ⟨h.profileId, h.pii, h.row⟩

theorem Behind.address {n n' : Desk} (h : Behind n n') : n'.session.address = n.session.address := by
  obtain ⟨-, -, t, hs⟩ := h
  rw [hs]; rfl

/-! ## Steps that stall -/

/-- The step is stopped before it has done anything, for a reason of this kind, or it does what it
    would do where it is calm. -/
def Stalls {α : Type} (why : FlowError → Prop) (x : Step α) (d : Desk) : Prop :=
  (∃ e, why e ∧ x.perform d = (.error e, d)) ∨
    ∃ a d', x.perform d = (.ok a, d') ∧ x.perform (calm d) = (.ok a, calm d')

theorem stalls_relocate : Stalls (∃ f, · = .notKept f) (relocate user) d := by
  cases h : d.office.vault.relocate d.session user with
  | error e => exact .inl ⟨_, ⟨e, rfl⟩, perform_relocate_error h⟩
  | ok r =>
    obtain ⟨moved, s, v⟩ := r
    have hcalm : (calm d).office.vault.relocate (calm d).session user =
        .ok (moved, s, { v with failWrites := false }) := Vault.relocate_working h
    exact .inr ⟨_, _, perform_relocate_ok h, perform_relocate_ok hcalm⟩

theorem stalls_sendLetter (hp : d.session.held .pii = some (.inline pii)) :
    Stalls (∃ f, · = .vendorFailed .letters f) (sendLetter user profile provider) d := by
  cases h : d.office.mailroom.send provider profile with
  | error e =>
    exact .inl ⟨_, ⟨e, rfl⟩, perform_sendLetter_error (resolvePii_inline hp) h⟩
  | ok r =>
    obtain ⟨code, m⟩ := r
    have hcalm : (calm d).office.mailroom.send provider profile =
        .ok (code, { m with fail := false }) := by
      unfold Mailroom.send at h ⊢
      split at h <;> cases h
      rfl
    exact .inr ⟨_, _, perform_sendLetter_ok (resolvePii_inline hp) h,
      perform_sendLetter_ok (d := calm d) (resolvePii_inline hp) hcalm⟩

theorem stalls_schedule (hp : d.session.held .pii = some (.inline pii)) :
    Stalls (∃ f, · = .vendorFailed .visits f) (schedule user profile) d := by
  cases h : d.office.enrollments.schedule user with
  | error e =>
    exact .inl ⟨_, ⟨e, rfl⟩, perform_schedule_error (resolvePii_inline hp) h⟩
  | ok es =>
    have hcalm : (calm d).office.enrollments.schedule user =
        .ok { es with failScheduling := false } := Enrollments.schedule_working h
    exact .inr ⟨_, _, perform_schedule_ok (resolvePii_inline hp) h,
      perform_schedule_ok (d := calm d) (resolvePii_inline hp) hcalm⟩

/-! ## Making up for a failure -/

/-- What is left to do after a failure: from the step that failed on, each step by its own call. -/
def makeUp (user : UserId) (provider : Option ServiceProvider) :
    FlowError → Step (Option LetterCode)
  | .notKept _ => do
    let _ ← relocate user
    if (← Step.session).address.byLetter then return some (← requestLetter user provider)
    else return none
  | .vendorFailed .letters _ => return some (← requestLetter user provider)
  | .vendorFailed .visits _ => do
    scheduleVisit user
    return none
  | e => throw e

theorem requestLetter_eq (h : Filed profile d) (hfind : d.office.reach .find = .ok ()) :
    (requestLetter user provider).perform d = (sendLetter user profile provider).perform d := by
  obtain ⟨q, hq⟩ := Option.isSome_iff_exists.1 h.row
  have hid : q.id = profile := by simpa using List.find?_some hq
  have hown : ownProfile d.office d.session = .ok q := by
    simp [ownProfile, h.profileId, hfind, hq, Except.mapError, bind, Except.bind, pure, Except.pure]
  simp [requestLetter, Step.perform_bind, hown, hid]

/-- What a step comes to in calm, it comes to otherwise as well, if what failed is made up for. -/
def Confluent {α : Type} (user : UserId) (provider : Option ServiceProvider) (x : Step α)
    (code : α → Option LetterCode) (d : Desk) : Prop :=
  ∀ a d₁, x.perform (calm d) = (.ok a, d₁) →
    (∃ d', x.perform d = (.ok a, d') ∧ calm d' = d₁) ∨
      ∃ e d', x.perform d = (.error e, d') ∧
        (makeUp user provider e).perform (calm d') = (.ok (code a), d₁)

section
variable {enrollment : Option Enrollment}

/-- The data of an active profile is taken into the vault. -/
theorem follow_confluent_activated (hb : d.session.address.byLetter = false) :
    Confluent user provider (follow user provider enrollment profile .activated) (·.2) d := by
  intro r d₁ hr
  generalize hn : ({ d with office := { d.office with
    events := d.office.events ++ [.profileActivated profile] } } : Desk) = n
  have hn' : ({ calm d with office := { (calm d).office with
      events := (calm d).office.events ++ [.profileActivated profile] } } : Desk) = calm n := by
    rw [← hn]; rfl
  have hbn : (calm n).session.address.byLetter = false := by rw [← hn]; exact hb
  rw [follow, Step.perform_bind_ok (Step.perform_emit _ (calm d)), hn'] at hr
  rw [follow, Step.perform_bind_ok (Step.perform_emit _ d), hn]
  rcases @stalls_relocate n user with ⟨_, ⟨f, rfl⟩, hstop⟩ | ⟨a, n', hgo, hgo'⟩
  · refine .inr ⟨_, n, Step.perform_bind_error hstop _, ?_⟩
    obtain ⟨a, n', hmove, hend⟩ := Step.perform_bind_eq_ok hr
    have hbehind : Behind (calm n) n' := settles_relocate.behind_of hmove
    rw [← hbehind.address] at hbn
    cases hend
    rw [makeUp, Step.perform_bind_ok hmove, Step.perform_bind_ok (Step.perform_session _), hbn]
    rfl
  · rw [Step.perform_bind_ok hgo'] at hr
    cases hr
    exact .inl ⟨n', Step.perform_bind_ok hgo _, rfl⟩

variable (h : Filed profile d)
include h

/-- A letter that was chosen is sent once the data is in the vault. -/
theorem follow_confluent_letter (hb : d.session.address.byLetter = true) (hold : Hold) :
    Confluent user provider (follow user provider enrollment profile (.blocked hold)) (·.2) d := by
  intro r d₁ hr
  have hbc : (calm d).session.address.byLetter = true := hb
  rw [follow, Step.perform_bind_ok (Step.perform_session (calm d)), hbc, if_pos rfl] at hr
  rw [follow, Step.perform_bind_ok (Step.perform_session d), hb, if_pos rfl]
  rcases @stalls_relocate d user with ⟨_, ⟨f, rfl⟩, hstop⟩ | ⟨a, n, hgo, hgo'⟩
  · -- nothing was moved: both calls are made again
    refine .inr ⟨_, d, Step.perform_bind_error hstop _, ?_⟩
    obtain ⟨a, n, hmove, hend⟩ := Step.perform_bind_eq_ok hr
    have hbehind : Behind (calm d) n := settles_relocate.behind_of hmove
    obtain ⟨code, n', hsend, hend⟩ := Step.perform_bind_eq_ok hend
    cases hend
    have hfind : n.office.reach .find = .ok () := by
      rw [Office.reach, hbehind.down]; exact Office.reach_find_calm d.office
    rw [← requestLetter_eq (h.calm.behind hbehind) hfind] at hsend
    rw [← hbehind.address] at hbc
    rw [makeUp, Step.perform_bind_ok hmove, Step.perform_bind_ok (Step.perform_session n), hbc,
      if_pos rfl, Step.perform_bind_ok hsend]
    rfl
  · rw [Step.perform_bind_ok hgo'] at hr
    rw [Step.perform_bind_ok hgo]
    have hbehind : Behind d n := settles_relocate.behind_of hgo
    obtain ⟨pii, hp⟩ := (h.behind hbehind).pii
    rcases @stalls_sendLetter n user provider profile pii hp with
      ⟨_, ⟨f, rfl⟩, hstop⟩ | ⟨code, n', hsend, hsend'⟩
    · -- the letter alone is asked for again
      refine .inr ⟨_, n, Step.perform_bind_error hstop _, ?_⟩
      obtain ⟨code, n', hsend, hend⟩ := Step.perform_bind_eq_ok hr
      cases hend
      rw [← requestLetter_eq (h.behind hbehind).calm (Office.reach_find_calm n.office)] at hsend
      rw [makeUp, Step.perform_bind_ok hsend]
      rfl
    · rw [Step.perform_bind_ok hsend'] at hr
      cases hr
      exact .inl ⟨n', Step.perform_bind_ok hsend _, rfl⟩

/-- A visit is scheduled; a profile with no visit to come has nothing left that could fail. -/
theorem follow_confluent_visit (hb : d.session.address.byLetter = false) (hold : Hold) :
    Confluent user provider (follow user provider enrollment profile (.blocked hold)) (·.2) d := by
  intro r d₁ hr
  have hbc : (calm d).session.address.byLetter = false := hb
  rw [follow, Step.perform_bind_ok (Step.perform_session (calm d)), hbc] at hr
  rw [follow, Step.perform_bind_ok (Step.perform_session d), hb]
  cases enrollment with
  | none => cases hr; exact .inl ⟨d, rfl, rfl⟩
  | some e =>
    obtain ⟨pii, hp⟩ := h.pii
    simp only [Bool.false_eq_true, if_false, Option.isSome_some, if_true] at hr ⊢
    rcases @stalls_schedule d user profile pii hp with
      ⟨_, ⟨f, rfl⟩, hstop⟩ | ⟨_, n, hgo, hgo'⟩
    · refine .inr ⟨_, d, Step.perform_bind_error hstop _, ?_⟩
      obtain ⟨_, n, hgo, hend⟩ := Step.perform_bind_eq_ok hr
      cases hend
      rw [← scheduleVisit_eq h.calm.profileId] at hgo
      rw [makeUp, Step.perform_bind_ok hgo]
      rfl
    · rw [Step.perform_bind_ok hgo'] at hr
      cases hr
      exact .inl ⟨n, Step.perform_bind_ok hgo _, rfl⟩

theorem follow_confluent {activation : Activation}
    (hactive : activation = .activated → d.session.address.byLetter = false) :
    Confluent user provider (follow user provider enrollment profile activation) (·.2) d := by
  cases activation with
  | activated => exact follow_confluent_activated (hactive rfl)
  | blocked hold =>
    cases hb : d.session.address.byLetter with
    | true => exact follow_confluent_letter h hb hold
    | false => exact follow_confluent_visit h hb hold

end

/-! ## The whole step -/

/-- A profile that is active from the start has no letter chosen for it. -/
theorem byLetter_of_activated {p : Prepared} {q : Profile} {r : Registry}
    (hp : prepare config d.session d.office password user provider draw = .ok p)
    (h : persist d.office p.draft = (.ok (q, .activated), r)) :
    d.session.address.byLetter = false := by
  rcases upcoming_cases (persist_ok h).2.1 with ⟨hholds, -, -⟩ | ⟨_, -, hblocked, -⟩
  · rw [holds_of_persist hp h, awaited_eq_nil, ← needsLetter_eq] at hholds
    exact (Bool.or_eq_false_iff.1 hholds.2.1).1
  · cases hblocked

/-- What is known of the desk at which the ways of a profile part. -/
structure Parts (d : Desk) (q : Profile) (activation : Activation) (n : Desk) : Prop where
  filed : Filed q.id n
  staged : ∃ pii, n.session.staged = some (.ofPii pii)
  vault : n.office.vault = d.office.vault
  address : n.session.address = d.session.address
  byLetter : activation = .activated → n.session.address.byLetter = false

/-- Where completing the flow succeeds in calm, it gets to the parting of the ways in any case. -/
theorem exists_parting {out : Outcome} {d₁ : Desk}
    (h : (complete config password user provider draw).perform (calm d) = (.ok out, d₁)) :
    ∃ p q activation n, Parts d q activation n ∧
      (complete config password user provider draw).perform d =
        (depart user provider p q activation).perform n ∧
      (complete config password user provider draw).perform (calm d) =
        (depart user provider p q activation).perform (calm n) := by
  cases hp : prepare config d.session d.office password user provider draw with
  | error e =>
    rw [complete_of_prepare_error (d := calm d) (prepare_calm.trans hp)] at h
    cases h
  | ok p =>
    rcases hc : persist d.office p.draft with ⟨e | ⟨q, activation⟩, r⟩
    · rw [complete_of_persist_error (d := calm d) (prepare_calm.trans hp) (persist_calm.trans hc)]
        at h
      cases h
    · generalize hd : ({ d with office := { d.office with registry := r } } : Desk) = c
      have hd' : ({ calm d with office := { (calm d).office with registry := r } } : Desk) =
          calm c := by rw [← hd]; rfl
      have hid : c.session.profileId = none := by rw [← hd]; exact (prepare_ok_iff.1 hp).1
      have hdisturbed := complete_of_persist_ok hp hc
      have hcalm := complete_of_persist_ok (d := calm d) (prepare_calm.trans hp)
        (persist_calm.trans hc)
      rw [hd, settle_eq_depart hid] at hdisturbed
      rw [hd', settle_eq_depart (d := calm c) hid] at hcalm
      -- the profile is noted, and what is done next succeeds as it does in calm
      change _ = Step.perform _ (calm (noted c q p.applicant)) at hcalm
      obtain ⟨_, n', happroach', -⟩ := Step.perform_bind_eq_ok (hcalm.symm.trans h)
      obtain ⟨n, happroach, rfl, hbehind⟩ := approach_of_calm happroach'
      rw [Step.perform_bind_ok happroach] at hdisturbed
      rw [Step.perform_bind_ok happroach'] at hcalm
      obtain ⟨hstaged, hvault⟩ := staged_of_approach happroach
      have haddress : n.session.address = d.session.address := by
        rw [hbehind.address, ← hd]
        exact address_recorded _ _ _
      refine ⟨p, q, activation, n, ⟨?_, ⟨_, hstaged⟩, ?_, haddress, ?_⟩, hdisturbed, hcalm⟩
      · have hfiled : Filed q.id (noted c q p.applicant) := filed_noted (by rw [← hd]; exact hc) _
        exact hfiled.behind hbehind
      · rw [hvault, ← hd]
        rfl
      · rintro rfl
        rw [haddress]
        exact byLetter_of_activated hp hc

/-- The failures are met: a letter is not sent before the data is in the vault. -/
theorem complete_of_writes_failing {out : Outcome} {d₁ : Desk}
    (h : (complete config password user provider draw).perform (calm d) = (.ok out, d₁))
    (writes : d.office.vault.failWrites = true) (hb : d.session.address.byLetter = true) :
    ((complete config password user provider draw).perform d).1 =
      .error (.notKept Vault.injected) := by
  obtain ⟨p, q, activation, n, hparts, hdisturbed, -⟩ := exists_parting h
  obtain ⟨pii, hstaged⟩ := hparts.staged
  have hbn : n.session.address.byLetter = true := by rw [hparts.address]; exact hb
  have hstop : (relocate user).perform n = (.error (.notKept Vault.injected), n) := by
    refine perform_relocate_error ?_
    rw [Vault.relocate_of_staged hparts.filed.profileId hstaged (StagedText.isBlank_ofPii pii),
      hparts.vault, Vault.persist, if_pos writes]
    rfl
  cases activation with
  | activated => rw [hparts.byLetter rfl] at hbn; cases hbn
  | blocked hold =>
    have hfollow : (follow user provider p.enrollment q.id (.blocked hold)).perform n =
        (.error (.notKept Vault.injected), n) := by
      rw [follow, Step.perform_bind_ok (Step.perform_session n), hbn]
      exact Step.perform_bind_error hstop _
    rw [hdisturbed, depart, Step.perform_bind_error hfollow]

/-- **A failure behind the commit can be made up for without a trace**: if a flow would be completed
    in calm, then it is completed in the same way, or one of the steps behind the commit fails; and
    once the services are calm, making up for that leads to the very desk that it would have
    led to. -/
theorem complete_confluent (config : Config) (password : Password) (user : UserId)
    (provider : Option ServiceProvider) (draw : Draft.Draw) (d : Desk) {out : Outcome} {d₁ : Desk}
    (undisturbed : (complete config password user provider draw).perform (calm d) = (.ok out, d₁)) :
    (∃ d', (complete config password user provider draw).perform d = (.ok out, d') ∧
        calm d' = d₁) ∨
      ∃ e d', (complete config password user provider draw).perform d = (.error e, d') ∧
        (makeUp user provider e).perform (calm d') = (.ok out.code, d₁) := by
  obtain ⟨p, q, activation, n, hparts, hdisturbed, hcalm⟩ := exists_parting undisturbed
  rw [hcalm] at undisturbed
  rw [hdisturbed]
  obtain ⟨⟨status, code⟩, n₁, hfollow, hend⟩ := Step.perform_bind_eq_ok undisturbed
  cases hend
  rcases follow_confluent hparts.filed hparts.byLetter _ _ hfollow with ⟨n', hgo, rfl⟩ | ⟨e, n', hstop, hrest⟩
  · exact .inl ⟨n', Step.perform_bind_ok hgo _, rfl⟩
  · exact .inr ⟨e, n', Step.perform_bind_error hstop _, hrest⟩

end

open Registry.Traffic (zeroUser)

/-- A letter was chosen, but neither the vault nor the mailroom works. -/
def letterDesk : Desk where
  session := firstDesk.session.put .mechanism (some .letter)
  office := (firstDesk.office.setFailing .writes true).setFailing .letters true

theorem complete_confluent_letter : ∃ out d₁ d',
    (complete .light ⟨"secret"⟩ zeroUser none zeroDraw).perform (calm letterDesk) = (.ok out, d₁) ∧
      (complete .light ⟨"secret"⟩ zeroUser none zeroDraw).perform letterDesk =
        (.error (.notKept Vault.injected), d') ∧
      (makeUp zeroUser none (.notKept Vault.injected)).perform (calm d') = (.ok out.code, d₁) := by
  have quiet := not_isOn_of_off (o := (calm letterDesk).office) rfl rfl rfl rfl rfl rfl rfl
  have reachable : (calm letterDesk).office.registry.Reachable := Registry.reachable_empty ⟨7⟩
  obtain ⟨p, q, activation, r, hp, hc⟩ := @exists_commit_of_quiet (calm letterDesk) zeroUser none
    .light ⟨"secret"⟩ zeroDraw .empty quiet (by decide) (by decide) rfl
    (fun q hq => absurd hq List.not_mem_nil)
  obtain ⟨out, d₁, hcalm, -⟩ := exists_undisturbed reachable .empty quiet hp hc
  have hfails := complete_of_writes_failing hcalm rfl rfl
  rcases complete_confluent .light ⟨"secret"⟩ zeroUser none zeroDraw letterDesk hcalm with
    ⟨d', hgo, -⟩ | ⟨e, d', hstop, hrest⟩
  · rw [hgo] at hfails
    cases hfails
  · rw [hstop] at hfails
    cases hfails
    exact ⟨out, d₁, d', hcalm, hstop, hrest⟩

end Completion

end Proofing
