import Proofing.Completion.Office
import Proofing.Profile.Draft
import Proofing.Session.Progress
import Proofing.Session.Staging
/-
  Proofing — completing a flow.

  `complete` makes the profile of a session: it is created, and activated if
  nothing holds it back, in one transaction.  Up to that point a failure leaves
  the session and the services as they were, but for a number of the registry
  (`prepare`, `persist`).  From then on the session records the profile, and a
  failure leaves what was done (`settle`); the rest can be made up for with
  `relocate`, `requestLetter` and `scheduleVisit`.
-/
namespace Proofing.Completion

/-- A session and the services that it is completed with. -/
structure Desk where
  session : Session
  office : Office

/-- A step at the desk: what has changed stays changed where a step fails. -/
abbrev Step := ExceptT FlowError (StateM Desk)

namespace Step

/-- The outcome of a call that fails with a reason of its own. -/
def lift {ε α : Type} (wrap : ε → FlowError) (r : Except ε α) : Step α :=
  match r with
  | .ok a => pure a
  | .error e => throw (wrap e)

/-- The session. -/
def session : Step Session :=
  return (← get).session

/-- The services. -/
def office : Step Office :=
  return (← get).office

/-- Replaces the session. -/
def setSession (s : Session) : Step Unit :=
  modify fun d => { d with session := s }

/-- Changes the services. -/
def modifyOffice (f : Office → Office) : Step Unit :=
  modify fun d => { d with office := f d.office }

/-- Queues an event. -/
def emit (e : Event) : Step Unit :=
  modifyOffice fun o => { o with events := o.events ++ [e] }

end Step

/-- What completing a flow came to. -/
structure Outcome where
  profile : ProfileId
  status : Status
  /-- Everything that holds the profile back. -/
  holds : List Hold
  /-- The code of the letter, if one was sent. -/
  code : Option LetterCode
  deriving DecidableEq

/-! ## Single steps -/

/-- Takes staged personal data into the vault. -/
def relocate (user : UserId) : Step Bool := do
  let s ← Step.session
  let o ← Step.office
  let (moved, s, vault) ← Step.lift .notKept (o.vault.relocate s user)
  Step.setSession s
  Step.modifyOffice fun o => { o with vault }
  if moved then
    if let some id := s.profileId then Step.emit (.piiRelocated id)
  return moved

/-- The personal data of a session, from the vault if the session has but a token for it. -/
def resolvePii (o : Office) (s : Session) (user : UserId) : Except FlowError Pii :=
  match s.held .pii with
  | some (.inline pii) => .ok pii
  | some (.reference token) =>
    (do
      o.reach .holds
      if !o.vault.holds user then throw (.notFound "cached pii")
      o.vault.fetch user token : Except StoreFault Pii).mapError .notKept
  | none =>
    match s.held .applicant with
    | some applicant => .ok applicant
    | none => .error .noApplicant

/-- Sends the letter for a profile. -/
def sendLetter (user : UserId) (profile : ProfileId) (provider : Option ServiceProvider) :
    Step LetterCode := do
  let o ← Step.office
  let _ ← Step.lift id (resolvePii o (← Step.session) user)
  let (code, mailroom) ← Step.lift (.vendorFailed .letters) (o.mailroom.send provider profile)
  Step.modifyOffice fun o => { o with mailroom }
  Step.emit (.letterRequested profile)
  return code

/-- Hands the enrollment of the user to the vendor. -/
def schedule (user : UserId) (profile : ProfileId) : Step Unit := do
  let o ← Step.office
  let _ ← Step.lift id (resolvePii o (← Step.session) user)
  let enrollments ← Step.lift (.vendorFailed .visits) (o.enrollments.schedule user)
  Step.modifyOffice fun o => { o with enrollments }
  Step.emit (.visitScheduled profile)

/-- The profile of a session. -/
def ownProfile (o : Office) (s : Session) : Except FlowError Profile := do
  let some id := s.profileId | throw .noProfile
  (o.reach .find).mapError .notFound
  let some profile := o.registry.find? id | throw .noProfile
  return profile

/-- Sends a letter for the profile of the session. -/
def requestLetter (user : UserId) (provider : Option ServiceProvider) : Step LetterCode := do
  let profile ← Step.lift id (ownProfile (← Step.office) (← Step.session))
  sendLetter user profile.id provider

/-- Schedules the visit for the profile of the session. -/
def scheduleVisit (user : UserId) : Step Unit := do
  match (← Step.session).profileId with
  | some id => schedule user id
  | none => throw .noProfile

/-! ## Making the profile -/

/-- What is known before the profile is made. -/
structure Prepared where
  applicant : Pii
  enrollment : Option Enrollment
  draft : Draft

/-- The open enrollment of the user. -/
def openEnrollment (o : Office) (user : UserId) : Except StoreFault (Option Enrollment) := do
  o.reach .establishing
  return o.enrollments.establishing? user

/-- What will hold the profile of a session back. -/
def conditions (config : Config) (s : Session) (enrollment : Option Enrollment) : Conditions where
  fraud := FraudHold.of config.decisioning (s.held .deviceReview)
  letterNeeded := s.address.needsLetter
  visitNeeded := enrollment.isSome

/-- The draft of the profile of a session that has none yet. -/
def prepare (config : Config) (s : Session) (o : Office) (password : Password) (user : UserId)
    (provider : Option ServiceProvider) (draw : Draft.Draw) : Except FlowError Prepared := do
  if let some existing := s.profileId then throw (.profileExists existing)
  let some applicant := s.held .applicant | throw .noApplicant
  let enrollment ← (openEnrollment o user).mapError .notCreated
  let draft ← (Draft.make applicant user provider config.cost password s.id s.nonce
    (conditions config s enrollment) draw).mapError .sealing
  return ⟨applicant, enrollment, draft⟩

/-- Activates a new profile unless something holds it back. -/
def activateNew (r : Registry) (t : Transaction) (p : Profile) :
    Activation × Profile × Transaction :=
  match p.hold? with
  | some h => (.blocked h, p, t)
  | none => r.activate t p

/-- Creates the profile, activates it if nothing holds it back, and commits. -/
def persist (o : Office) (draft : Draft) :
    Except StoreFault (Profile × Activation) × Registry :=
  match o.reach .start with
  | .error e => (.error e, o.registry)
  | .ok _ =>
    match o.registry.create .empty draft with
    | .error e => (.error e, o.registry)
    | .ok (created, registry, t) =>
      let (activation, profile, t) := activateNew registry t created
      match registry.commit t with
      | .error e => (.error e, registry)
      | .ok registry => (.ok (profile, activation), registry)

/-- Notes a committed profile in the session. -/
def record (profile : Profile) (applicant : Pii) : Step Unit := do
  let s ← Step.lift id ((← Step.session).setProfileId (some profile.id))
  Step.setSession <|
    (s.put .pii (some (.inline applicant))).put .personalKey profile.personalKey
  Step.emit (.profileCreated profile.id profile.user profile.holds)

/-- Links the enrollment of the user to the profile. -/
def link (enrollment : Enrollment) (profile : ProfileId) : Step Unit := do
  let o ← Step.office
  let enrollments ← Step.lift .notLinked (do
    o.reach .link
    o.enrollments.link enrollment profile)
  Step.modifyOffice fun o => { o with enrollments }
  Step.emit (.enrollmentLinked profile enrollment.id)

/-- Goes the way that is left for a profile: into the vault, by letter, or by a visit. -/
def follow (user : UserId) (provider : Option ServiceProvider) (enrollment : Option Enrollment)
    (profile : ProfileId) : Activation → Step (Status × Option LetterCode)
  | .activated => do
    Step.emit (.profileActivated profile)
    let _ ← relocate user
    return (.activated, none)
  | .blocked hold => do
    if (← Step.session).address.byLetter then
      let _ ← relocate user
      let code ← sendLetter user profile provider
      return (.pendingLetter, some code)
    else if enrollment.isSome then
      schedule user profile
      return (.pendingVisit, none)
    else return (.ofHold hold, none)

/-- Everything that follows once the profile is committed. -/
def settle (password : Password) (user : UserId) (provider : Option ServiceProvider)
    (p : Prepared) (profile : Profile) (activation : Activation) : Step Outcome := do
  record profile p.applicant
  let staged ← Step.lift .notKept ((← Step.office).vault.stage password profile p.applicant)
  Step.setSession ((← Step.session).stage staged)
  if let some enrollment := p.enrollment then link enrollment profile.id
  let (status, code) ← follow user provider p.enrollment profile.id activation
  return ⟨profile.id, status, profile.holds, code⟩

/-- Makes the profile of a session and goes the way that is left for it. -/
def complete (config : Config) (password : Password) (user : UserId)
    (provider : Option ServiceProvider) (draw : Draft.Draw) : Step Outcome := do
  let d ← get
  let p ← Step.lift id (prepare config d.session d.office password user provider draw)
  let (result, registry) := persist d.office p.draft
  Step.modifyOffice fun o => { o with registry }
  let (profile, activation) ← Step.lift .notCreated result
  settle password user provider p profile activation

end Proofing.Completion
