import Proofing.Proofs.Completion.Relocation
import Proofing.Proofs.Session.Acts
/-
  Proofing — a session with a profile is locked.

  A `Deed` is anything that can be done with a session at a desk, short of
  starting the flow anew.

  * `under_next`, `profileId_next`: no deed takes a session from under its
    settings, nor the number of its profile from it;
  * `locked_of_profileId`: a session with that number refuses another one, every
    reset and a second profile, and is in one of the last two phases;
  * `locked_run`: so it is from the moment the number is there.
-/
namespace Proofing

namespace Attributes
variable {as : Attributes} {id : ProfileId}

/-- The number of a profile can only be written again. -/
theorem setProfileId_of_some (h : as.profileId = some id) (v : Option ProfileId) :
    as.setProfileId v = if v = some id then .ok as else .error (.profileExists id) := by
  simp only [setProfileId, h]
  split
  · rename_i hv
    subst hv
    rw [put_of_held h]
  · rfl

end Attributes

namespace Session
variable {s : Session} {id : ProfileId}

theorem setProfileId_of_profileId (h : s.profileId = some id) (v : Option ProfileId) :
    s.setProfileId v = if v = some id then .ok s else .error (.profileExists id) := by
  rw [setProfileId, Attributes.setProfileId_of_some h]
  split <;> rfl

/-- By name, the number is written as it is otherwise. -/
theorem set_profileId {value : Option Json} {v : Option ProfileId}
    (h : Attributes.read (.slot .profileId) value = .ok v) :
    s.set (Attribute.slot .profileId).name value = s.setProfileId v := by
  rw [set_of_known (Attribute.ofName?_eq_some_iff.2 rfl), Attributes.set_profileId, h]
  change (s.attributes.setProfileId v).map _ = s.attributes.setProfileId v >>= _
  cases s.attributes.setProfileId v <;> rfl

theorem phase_of_profileId (h : s.profileId = some id) (profile : Option Profile) :
    s.phase profile = .keyIssued ∨ ∃ status, s.phase profile = .profileCreated status := by
  simp only [phase, h]
  split
  · exact .inl rfl
  · exact .inr ⟨_, rfl⟩

end Session

namespace Completion

/-! ## Deeds -/

/-- Something that is done with a session, or with the services. -/
inductive Deed where
  | act (a : Act)
  | setProfileId (v : Option ProfileId)
  | complete (password : Password) (user : UserId) (provider : Option ServiceProvider)
      (draw : Draft.Draw)
  | move (m : Means) (user : UserId)
  /-- Others have used the services. -/
  | elsewhere (office : Office)

namespace Deed

/-- The desk after a deed; what is refused leaves the session as it was. -/
def next (config : Config) (d : Desk) : Deed → Desk
  | act a => { d with session := (Session.perform config d.session a).getD d.session }
  | setProfileId v => { d with session := (d.session.setProfileId v).toOption.getD d.session }
  | complete password user provider draw =>
    ((Completion.complete config password user provider draw).perform d).2
  | move m user => ((m.step user).perform d).2
  | elsewhere office => { d with office }

/-- The desk after some deeds. -/
def run (config : Config) (d : Desk) (ds : List Deed) : Desk :=
  ds.foldl (next config) d

end Deed

section
variable {config : Config} {d : Desk} {id : ProfileId} {password : Password} {user : UserId}
  {provider : Option ServiceProvider} {draw : Draft.Draw}

/-- Taking staged data in changes nothing in the session but what is staged. -/
theorem session_move (m : Means) (user : UserId) (d : Desk) :
    ∃ staged, ((m.step user).perform d).2.session = { d.session with staged } := by
  cases h : d.office.vault.relocate d.session user with
  | error e =>
    rw [m.perform_error h]
    exact ⟨_, rfl⟩
  | ok r =>
    obtain ⟨moved, s, v⟩ := r
    obtain ⟨staged, rfl⟩ := Vault.relocate_session h
    refine ⟨staged, ?_⟩
    cases m with
    | desk => rw [Means.step, perform_relocate_ok h]
    | silent => simp [Means.step, transfer, Step.perform_bind, Step.perform_map, h]

/-- Making a profile changes nothing in the session but attributes and what is staged. -/
theorem session_complete (config : Config) (password : Password) (user : UserId)
    (provider : Option ServiceProvider) (draw : Draft.Draw) (d : Desk) :
    ∃ attributes staged, ((complete config password user provider draw).perform d).2.session =
      { d.session with attributes, staged } := by
  cases hp : prepare config d.session d.office password user provider draw with
  | error e =>
    rw [complete_of_prepare_error hp]
    exact ⟨_, _, rfl⟩
  | ok p =>
    rcases h : persist d.office p.draft with ⟨e | ⟨profile, activation⟩, r⟩
    · rw [complete_of_persist_error hp h]
      exact ⟨_, _, rfl⟩
    · have hid : ({ d with office := { d.office with registry := r } } : Desk).session.profileId =
        none := (prepare_ok_iff.1 hp).1
      obtain ⟨staged, hs⟩ :=
        (behind_settle hid password user provider p profile activation).1.session
      rw [complete_of_persist_ok hp h, hs]
      exact ⟨_, staged, rfl⟩

/-- There is no second profile, whatever the services would do. -/
theorem complete_of_profileId (h : d.session.profileId = some id) :
    (complete config password user provider draw).perform d = (.error (.profileExists id), d) := by
  refine complete_of_prepare_error ?_
  rw [prepare, h]
  rfl

/-- A session stays under its settings. -/
theorem under_next (under : d.session.Under config) (a : Deed) :
    (a.next config d).session.Under config := by
  cases a with
  | act a =>
    rw [Deed.next]
    cases h : Session.perform config d.session a with
    | none => exact under
    | some s => exact Session.under_perform h under
  | setProfileId v =>
    rw [Deed.next, Session.setProfileId]
    cases d.session.attributes.setProfileId v with
    | error e => exact under
    | ok as => exact under.update ..
  | complete password user provider draw =>
    obtain ⟨attributes, staged, hs⟩ := session_complete config password user provider draw d
    rw [Deed.next, hs]
    exact under.update ..
  | move m user =>
    obtain ⟨staged, hs⟩ := session_move m user d
    rw [Deed.next, hs]
    exact under.update ..
  | elsewhere office => exact under

/-- The number of a profile stays once it is there. -/
theorem profileId_next (under : d.session.Under config) (h : d.session.profileId = some id)
    (a : Deed) : (a.next config d).session.profileId = some id := by
  cases a with
  | act a =>
    rw [Deed.next]
    cases hs : Session.perform config d.session a with
    | none => exact h
    | some s => exact Session.profileId_perform hs under h
  | setProfileId v =>
    rw [Deed.next, Session.setProfileId_of_profileId h]
    split <;> exact h
  | complete password user provider draw =>
    rw [Deed.next, complete_of_profileId h]
    exact h
  | move m user =>
    obtain ⟨staged, hs⟩ := session_move m user d
    rw [Deed.next, hs]
    exact h
  | elsewhere office => exact h

/-! ## Runs -/

theorem under_run (under : d.session.Under config) (ds : List Deed) :
    (Deed.run config d ds).session.Under config := by
  induction ds generalizing d with
  | nil => exact under
  | cons a ds ih => exact ih (under_next under a)

theorem profileId_run (under : d.session.Under config) (h : d.session.profileId = some id)
    (ds : List Deed) : (Deed.run config d ds).session.profileId = some id := by
  induction ds generalizing d with
  | nil => exact h
  | cons a ds ih => exact ih (under_next under a) (profileId_next under h a)

/-- The session has a profile for good, and nothing else can be made of it. -/
structure Locked (config : Config) (id : ProfileId) (d : Desk) : Prop where
  profileId : d.session.profileId = some id
  /-- Another number is refused, and so is none. -/
  typed : ∀ v, v ≠ some id →
    d.session.setProfileId v = .error (.profileExists id) ∧ (Deed.setProfileId v).next config d = d
  /-- And so they are by name, whatever they are written as. -/
  named : ∀ value v, Attributes.read (.slot .profileId) value = .ok v → v ≠ some id →
    d.session.set (Attribute.slot .profileId).name value = .error (.profileExists id) ∧
      (Deed.act (.set (Attribute.slot .profileId).name value)).next config d = d
  /-- There is no second profile, and nothing is done to the services. -/
  complete : ∀ config password user provider draw,
    (complete config password user provider draw).perform d = (.error (.profileExists id), d)
  resets : ∀ r, d.session.reset r = (.locked, d.session)
  phase : ∀ profile, d.session.phase profile = .keyIssued ∨
    ∃ status, d.session.phase profile = .profileCreated status

theorem locked_of_profileId (h : d.session.profileId = some id) : Locked config id d := by
  have typed {v : Option ProfileId} (hv : v ≠ some id) :
      d.session.setProfileId v = .error (.profileExists id) := by
    rw [Session.setProfileId_of_profileId h, if_neg hv]
  constructor
  case profileId => exact h
  case typed =>
    intro v hv
    refine ⟨typed hv, ?_⟩
    rw [Deed.next, typed hv]
    rfl
  case named =>
    intro value v hread hv
    have named : d.session.set (Attribute.slot .profileId).name value =
        .error (.profileExists id) := (Session.set_profileId hread).trans (typed hv)
    refine ⟨named, ?_⟩
    rw [Deed.next, Session.perform, named]
    rfl
  case complete => exact fun _ _ _ _ _ => complete_of_profileId h
  case resets => exact Session.reset_of_profileId h
  case phase => exact Session.phase_of_profileId h

/-- **A session with a profile is locked**: from the moment the number of the profile is there,
    whatever was done before and whatever is done afterwards. -/
theorem locked_run (under : d.session.Under config) (before after : List Deed)
    (h : (Deed.run config d before).session.profileId = some id) :
    Locked config id (Deed.run config d (before ++ after)) := by
  rw [Deed.run, List.foldl_append]
  exact locked_of_profileId (profileId_run (under_run under before) h after)

end

open Registry.Traffic (zeroUser)

theorem locked_run_numbered :
    let before : List Deed := [.act (.reset .afterSsn), .setProfileId none,
      .act (.set "profile_id" (some (.nat 7)))]
    let after : List Deed := [.act (.set "profile_id" (some .null)), .setProfileId (some ⟨8⟩),
      .complete ⟨"secret"⟩ zeroUser none zeroDraw, .act .acknowledgeKey, .act (.reset .phone),
      .elsewhere (.empty ⟨9⟩), .act (.reload ⟨⟨"web"⟩, [("cart", .null)]⟩), .move .desk zeroUser]
    firstDesk.session.Under .light ∧
      (Deed.run .light firstDesk before).session.profileId = some ⟨7⟩ ∧
      Locked .light ⟨7⟩ (Deed.run .light firstDesk (before ++ after)) := by
  intro before after
  have under : firstDesk.session.Under .light := ⟨rfl, rfl, rfl⟩
  have h : (Deed.run .light firstDesk before).session.profileId = some ⟨7⟩ := by decide +kernel
  exact ⟨under, h, locked_run under before after h⟩

end Completion

end Proofing
