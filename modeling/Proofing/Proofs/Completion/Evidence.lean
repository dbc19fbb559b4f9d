import Proofing.Proofs.Completion.Success
import Proofing.Proofs.Session.Acts
/-
  Proofing — an active profile needs live evidence of the phone.

  `Evidence` is what a list of acts has to hold: the vendor's match, then the
  user's confirmation, and nothing since that drops either.

  * `Match.next`, `Evidence.next`: one act more keeps what the state of the check
    rests on, so after every run it is confirmed only on evidence (`grounded_run`);
  * `active_of_complete`: a profile that is active from the start belongs to a
    session that nothing holds back, `exists_active_of_quiet` the other way round;
  * `evidence_of_active` puts the two together.
-/
namespace Proofing

open Session (Run run)

/-- The vendor's match is followed by the user's confirmation, with nothing in between that drops
    the check of the phone; nothing after it drops the check or writes the user's side. -/
def Evidence (acts : List Act) : Prop :=
  ∃ before between after,
    acts = before ++ .vendorConfirms :: between ++ .userConfirms :: after ∧
      (∀ a ∈ between, ¬ a.DropsPhone) ∧ ∀ a ∈ after, ¬ a.DropsPhone ∧ ¬ a.WritesUser

/-- The vendor's match, and nothing after it that drops the check of the phone. -/
def Match (acts : List Act) : Prop :=
  ∃ before between, acts = before ++ .vendorConfirms :: between ∧ ∀ a ∈ between, ¬ a.DropsPhone

section
variable {acts : List Act} {a : Act}

theorem Match.intro (acts : List Act) : Match (acts ++ [.vendorConfirms]) :=
  ⟨acts, [], rfl, by simp⟩

theorem Match.snoc (h : Match acts) (ha : ¬ a.DropsPhone) : Match (acts ++ [a]) := by
  obtain ⟨before, between, rfl, hb⟩ := h
  refine ⟨before, between ++ [a], by simp, ?_⟩
  intro b hb'
  rcases List.mem_append.1 hb' with hb' | hb'
  · exact hb b hb'
  · rwa [List.mem_singleton.1 hb']

theorem Evidence.intro (h : Match acts) : Evidence (acts ++ [.userConfirms]) := by
  obtain ⟨before, between, rfl, hb⟩ := h
  exact ⟨before, between, [], by simp, hb, by simp⟩

theorem Evidence.snoc (h : Evidence acts) (ha : ¬ a.DropsPhone) (hu : ¬ a.WritesUser) :
    Evidence (acts ++ [a]) := by
  obtain ⟨before, between, after, rfl, hb, hafter⟩ := h
  refine ⟨before, between, after ++ [a], by simp, hb, ?_⟩
  intro b hb'
  rcases List.mem_append.1 hb' with hb' | hb'
  · exact hafter b hb'
  · rw [List.mem_singleton.1 hb']
    exact ⟨ha, hu⟩

theorem vendorConfirms_not_drops : ¬ Act.vendorConfirms.DropsPhone :=
  fun h => h.2 rfl

theorem vendorConfirms_not_writes : ¬ Act.vendorConfirms.WritesUser := by
  intro h
  cases Attribute.name_injective h

theorem userConfirms_not_drops : ¬ Act.userConfirms.DropsPhone := by
  rintro ⟨h, -⟩
  cases Attribute.name_injective h

end

/-! ## One act more -/

section
variable {acts : List Act} {a : Act} {p q : PhoneCheck} (turn : Session.Turn a p q)
  (matched : p.vendor = some true → Match acts)
include turn matched

theorem Match.next (hq : q.vendor = some true) : Match (acts ++ [a]) := by
  cases turn with
  | matched ha _ =>
    subst ha
    exact .intro _
  | dropped _ hdropped => exact absurd hq hdropped
  | confirmed ha hp _ =>
    subst ha
    exact (matched hp).snoc userConfirms_not_drops
  | unconfirmed ha hpq =>
    refine (matched ?_).snoc ha
    rw [hpq] at hq
    split at hq
    · rename_i hp
      rw [hp]; rfl
    · exact hq
  | kept ha _ hpq =>
    subst hpq
    exact (matched hq).snoc ha

theorem Evidence.next (confirmed : p = .userConfirmed → Evidence acts) (hq : q = .userConfirmed) :
    Evidence (acts ++ [a]) := by
  subst hq
  cases turn with
  | matched ha hpq =>
    subst ha
    refine (confirmed ?_).snoc vendorConfirms_not_drops vendorConfirms_not_writes
    -- a match alone confirms nothing
    by_contra hp
    simp [PhoneCheck.withVendor, hp] at hpq
  | dropped _ hdropped => exact absurd rfl hdropped
  | confirmed ha hp _ =>
    subst ha
    exact .intro (matched hp)
  | unconfirmed _ hpq =>
    split at hpq
    · cases hpq
    · rename_i hp
      exact absurd hpq.symm hp
  | kept ha hu hpq => exact (confirmed hpq.symm).snoc ha hu

end

/-! ## Runs -/

/-- As long as there is no profile, the state of the check is there on what it takes. -/
structure Grounded (config : Config) (r : Run) : Prop where
  under : r.session.Under config
  matched : r.session.profileId = none → r.session.attributes.phone.vendor = some true →
    Match r.taken
  confirmed : r.session.profileId = none → r.session.attributes.phone = .userConfirmed →
    Evidence r.taken

theorem grounded_next {config : Config} {r : Run} {a : Act} {s : Session} (h : Grounded config r)
    (hs : Session.perform config r.session a = some s) : Grounded config ⟨s, r.taken ++ [a]⟩ := by
  -- a session without a profile never had one
  have before (hid : s.profileId = none) : r.session.profileId = none := by
    cases hr : r.session.profileId with
    | none => rfl
    | some id =>
      rw [Session.profileId_perform hs h.under hr] at hid
      cases hid
  refine ⟨Session.under_perform hs h.under, fun hid => ?_, fun hid => ?_⟩
  · have turn := Session.turn_of_perform hs h.under (before hid)
    exact .next turn (h.matched (before hid))
  · have turn := Session.turn_of_perform hs h.under (before hid)
    exact .next turn (h.matched (before hid)) (h.confirmed (before hid))

theorem grounded_run (id : SessionId) (config : Config) (acts : List Act) :
    Grounded config (run id config acts) := by
  refine Session.run_induct id ⟨⟨rfl, rfl, rfl⟩, ?_, ?_⟩ (fun r a s h hs => grounded_next h hs) acts
  · intro _ h
    cases h
  · intro _ h
    cases h

namespace Completion
variable {config : Config} {password : Password} {user : UserId} {provider : Option ServiceProvider}
  {draw : Draft.Draw} {d : Desk}

/-! ## Completing the flow -/

/-- A new row that is active belongs to a session without a profile that nothing holds back. -/
theorem active_of_complete {q : Profile}
    (committed :
      q ∈ ((complete config password user provider draw).perform d).2.office.registry.rows)
    (new : q ∉ d.office.registry.rows) (active : q.active = true) :
    d.session.profileId = none ∧ awaited config d.session d.office user = [] := by
  obtain ⟨p, profile, activation, r, hp, h, rfl⟩ := commit_of_new committed new
  have hholds := holds_of_persist hp h
  exact ⟨(prepare_ok_iff.1 hp).1, hholds ▸ (active_iff (persist_ok h).2.1).1 active⟩

/-- The other way round: where nothing fails and nothing holds the profile back, it is active. -/
theorem exists_active_of_quiet {applicant : Pii} (quiet : ∀ f, ¬ IsOn d.office f)
    (hid : d.session.profileId = none) (ha : d.session.held .applicant = some applicant)
    (cost : config.cost.check = .ok ())
    (free : ∀ q ∈ d.office.registry.rows, q.key ≠ .derive d.session.id d.session.nonce user)
    (hnone : awaited config d.session d.office user = []) :
    ∃ p ∈ ((complete config password user provider draw).perform d).2.office.registry.rows,
      p ∉ d.office.registry.rows ∧ p.active = true := by
  obtain ⟨p, profile, activation, r, hp, h⟩ := exists_commit_of_quiet quiet hid ha cost free
  obtain ⟨committed, new⟩ := new_of_persist hp h
  have hholds := holds_of_persist hp h
  exact ⟨_, committed, new, (active_iff (persist_ok h).2.1).2 (hholds.trans hnone)⟩

/-- **An active profile needs live evidence of the phone**, whatever the run that led to its session
    and whatever the services do. -/
theorem evidence_of_active (config : Config) (password : Password) (user : UserId)
    (provider : Option ServiceProvider) (draw : Draft.Draw) (id : SessionId) (acts : List Act)
    (office : Office) {p : Profile}
    (committed : p ∈ ((complete config password user provider draw).perform
      ⟨(run id config acts).session, office⟩).2.office.registry.rows)
    (new : p ∉ office.registry.rows) (active : p.active = true) :
    Evidence (run id config acts).taken ∧
      (run id config acts).session.held .mechanism ≠ some .letter := by
  obtain ⟨hid, hnone⟩ := active_of_complete committed new active
  obtain ⟨-, hletter, -⟩ := awaited_eq_nil.1 hnone
  simp only [letterAwaited, Bool.or_eq_false_iff, Bool.not_eq_false', Bool.and_eq_true,
    beq_iff_eq, beq_eq_false_iff_ne] at hletter
  obtain ⟨hmechanism, -, huser⟩ := hletter
  refine ⟨(grounded_run id config acts).confirmed hid ?_, hmechanism⟩
  cases hphone : (run id config acts).session.attributes.phone with
  | userConfirmed => rfl
  | _ =>
    change (run id config acts).session.attributes.phone.user = _ at huser
    rw [hphone] at huser
    cases huser

open Registry.Traffic (zeroUser)

/-- A run to a confirmed phone: the first confirmation comes too early and is refused, the first
    match is dropped, and a request ends between the match and the confirmation. -/
def confirmingActs : List Act :=
  [.userConfirms, .set "applicant" (some (.obj [])), .vendorConfirms, .reset .phone,
    .vendorConfirms, .reload ⟨⟨"web"⟩, []⟩, .userConfirms, .markResolved]

theorem evidence_of_active_confirming :
    ∃ p ∈ ((complete .light ⟨"secret"⟩ zeroUser none zeroDraw).perform
        ⟨(run ⟨"web"⟩ .light confirmingActs).session, .empty ⟨7⟩⟩).2.office.registry.rows,
      p ∉ (Office.empty ⟨7⟩).registry.rows ∧ p.active = true ∧
        Evidence (run ⟨"web"⟩ .light confirmingActs).taken ∧
        (run ⟨"web"⟩ .light confirmingActs).session.held .mechanism ≠ some .letter := by
  have hid : (run ⟨"web"⟩ .light confirmingActs).session.profileId = none := by decide
  have ha : (run ⟨"web"⟩ .light confirmingActs).session.held .applicant = some .empty := by decide
  have hnone : awaited .light (run ⟨"web"⟩ .light confirmingActs).session (.empty ⟨7⟩) zeroUser =
      [] := awaited_eq_nil.2 ⟨by decide, by decide, by decide⟩
  obtain ⟨p, committed, new, active⟩ := @exists_active_of_quiet .light ⟨"secret"⟩ zeroUser none
    zeroDraw ⟨(run ⟨"web"⟩ .light confirmingActs).session, .empty ⟨7⟩⟩ .empty not_isOn_firstDesk hid ha rfl
    (fun q hq => absurd hq List.not_mem_nil) hnone
  exact ⟨p, committed, new, active, evidence_of_active .light ⟨"secret"⟩ zeroUser none zeroDraw
    ⟨"web"⟩ confirmingActs (.empty ⟨7⟩) committed new active⟩

end Completion

end Proofing
