import Proofing.Proofs.Completion.Commit
/-
  Proofing — completing a flow in steps that others can come between.

  A `Client` asks for a profile on its own copy of a session.  `Client.step` does
  the next thing that `complete` does, so that the steps of one client with
  nobody in between are `complete` (`Client.alone`).

  * `Progress.left` counts the steps that are left; a step takes one of them, and
    without one the request is at its end unless it was given up;
  * `Fits` says what a client on its way has in hand;
  * `Effect` says everything that a step can do to the services, and `Fits.step`
    that every step does something of that.
-/
namespace Proofing.Completion

/-- What a profile is asked for with. -/
structure Request where
  config : Config
  password : Password
  user : UserId
  provider : Option ServiceProvider
  draw : Draft.Draw

/-- How far a request has come. -/
inductive Progress where
  | waiting
  | prepared (p : Prepared)
  /-- The transaction is open. -/
  | started (p : Prepared) (t : Transaction)
  | created (p : Prepared) (t : Transaction) (profile : Profile)
  /-- The profile is active, or something holds it back. -/
  | activated (p : Prepared) (t : Transaction) (profile : Profile) (activation : Activation)
  | committed (p : Prepared) (profile : Profile) (activation : Activation)
  /-- All is done that follows the commit, as far as nothing has failed. -/
  | settled (profile : Profile) (result : Except FlowError Outcome)
  | refused (e : FlowError)
  /-- The transaction was dropped. -/
  | dropped

namespace Progress

/-- What the request came to, once it is at its end. -/
def result? : Progress → Option (Except FlowError Outcome)
  | settled _ result => some result
  | refused e => some (.error e)
  | _ => none

/-- The profile that was created, until it is given up. -/
def created? : Progress → Option Profile
  | created _ _ profile | activated _ _ profile _ | committed _ profile _ | settled profile _ =>
    some profile
  | _ => none

/-- The profile that was committed. -/
def committed? : Progress → Option Profile
  | committed _ profile _ | settled profile _ => some profile
  | _ => none

/-- No profile was created yet, but one may be. -/
def isBefore : Progress → Bool
  | waiting | prepared _ | started .. => true
  | _ => false

/-- How many steps are left at the most. -/
def left : Progress → Nat
  | waiting => 6
  | prepared _ => 5
  | started .. => 4
  | created .. => 3
  | activated .. => 2
  | committed .. => 1
  | settled .. | refused _ | dropped => 0

/-- A request without a step left is at its end, unless it was given up. -/
theorem result_of_left {x : Progress} (h : x.left = 0) (kept : x ≠ .dropped) :
    x.result?.isSome = true := by
  cases x with
  | settled | refused => rfl
  | dropped => exact absurd rfl kept
  | waiting | prepared | started | created | activated | committed => cases h

/-- Without a profile, a request comes to its end by a refusal. -/
theorem refused_of_result {x : Progress} {result : Except FlowError Outcome}
    (h : x.result? = some result) (hc : x.committed? = none) :
    ∃ e, x = .refused e ∧ result = .error e := by
  cases x with
  | refused e => cases h; exact ⟨e, rfl, rfl⟩
  | settled => cases hc
  | waiting | prepared | started | created | activated | committed | dropped => cases h

end Progress

/-- Someone who asks for a profile. -/
structure Client where
  request : Request
  session : Session
  progress : Progress

namespace Client

/-- What the client asks for. -/
def complete (c : Client) : Step Outcome :=
  Completion.complete c.request.config c.request.password c.request.user c.request.provider
    c.request.draw

/-- The next step of a request. -/
def step (o : Office) (c : Client) : Office × Client :=
  let r := c.request
  match c.progress with
  | .waiting =>
    match prepare r.config c.session o r.password r.user r.provider r.draw with
    | .error e => (o, { c with progress := .refused e })
    | .ok p => (o, { c with progress := .prepared p })
  | .prepared p =>
    match o.reach .start with
    | .error e => (o, { c with progress := .refused (.notCreated e) })
    | .ok _ => (o, { c with progress := .started p .empty })
  | .started p t =>
    match o.registry.create t p.draft with
    | .error e => (o, { c with progress := .refused (.notCreated e) })
    | .ok (profile, registry, t) =>
      ({ o with registry }, { c with progress := .created p t profile })
  | .created p t profile =>
    let (activation, profile, t) := activateNew o.registry t profile
    (o, { c with progress := .activated p t profile activation })
  | .activated p t profile activation =>
    match o.registry.commit t with
    | .error e => (o, { c with progress := .refused (.notCreated e) })
    | .ok registry => ({ o with registry }, { c with progress := .committed p profile activation })
  | .committed p profile activation =>
    let (result, d) :=
      (settle r.password r.user r.provider p profile activation).perform ⟨c.session, o⟩
    (d.office, { c with session := d.session, progress := .settled profile result })
  | .settled .. | .refused _ | .dropped => (o, c)

/-- Gives a request up; what is committed stays. -/
def drop (c : Client) : Client :=
  match c.progress with
  | .committed .. | .settled .. | .refused _ => c
  | _ => { c with progress := .dropped }

/-- A step takes one of those that are left. -/
theorem left_step (o : Office) (c : Client) :
    (c.step o).2.progress.left ≤ c.progress.left - 1 := by
  obtain ⟨r, s, progress⟩ := c
  cases progress with
  | waiting | prepared | started | activated =>
    simp only [step]
    split <;> simp [Progress.left]
  | created | committed | settled | refused | dropped => exact Nat.le_refl _

theorem left_drop (c : Client) : c.drop.progress.left ≤ c.progress.left := by
  obtain ⟨r, s, progress⟩ := c
  cases progress with
  | committed | settled | refused => exact Nat.le_refl _
  | waiting | prepared | started | created | activated | dropped => exact Nat.zero_le _

/-- No step gives a request up. -/
theorem dropped_of_step {o : Office} {c : Client} (h : (c.step o).2.progress = .dropped) :
    c.progress = .dropped := by
  obtain ⟨r, s, progress⟩ := c
  cases progress with
  | waiting | prepared | started | activated =>
    simp only [step] at h
    split at h <;> cases h
  | created | committed | settled | refused => cases h
  | dropped => rfl

/-- Several steps with nobody in between. -/
def steps : Nat → Office × Client → Office × Client
  | 0, x => x
  | n + 1, (o, c) => steps n (step o c)

/-- **The steps of a client that is alone are `complete`.** -/
theorem alone (o : Office) {c : Client} (h : c.progress = .waiting) :
    (steps 6 (o, c)).2.progress.result? = some (c.complete.perform ⟨c.session, o⟩).1 ∧
      (⟨(steps 6 (o, c)).2.session, (steps 6 (o, c)).1⟩ : Desk) =
        (c.complete.perform ⟨c.session, o⟩).2 := by
  obtain ⟨r, s, progress⟩ := c
  cases h
  simp only [complete]
  cases hp : prepare r.config s o r.password r.user r.provider r.draw with
  | error e =>
    rw [complete_of_prepare_error hp]
    simp only [steps, step, hp, Progress.result?, and_self]
  | ok p =>
    cases hs : o.reach .start with
    | error e =>
      have hper : persist o p.draft = (.error e, o.registry) := by simp only [persist, hs]
      rw [complete_of_persist_error hp hper]
      simp only [steps, step, hp, hs, Progress.result?, and_self]
    | ok _ =>
      cases hc : o.registry.create .empty p.draft with
      | error e =>
        have hper : persist o p.draft = (.error e, o.registry) := by simp only [persist, hs, hc]
        rw [complete_of_persist_error hp hper]
        simp only [steps, step, hp, hs, hc, Progress.result?, and_self]
      | ok x =>
        obtain ⟨created, registry, t⟩ := x
        cases hw : registry.commit (activateNew registry t created).2.2 with
        | error e =>
          have hper : persist o p.draft = (.error e, registry) := by
            simp only [persist, hs, hc, hw]
          rw [complete_of_persist_error hp hper]
          simp only [steps, step, hp, hs, hc, hw, Progress.result?, and_self]
        | ok r' =>
          have hper : persist o p.draft = (.ok ((activateNew registry t created).2.1,
              (activateNew registry t created).1), r') := by
            simp only [persist, hs, hc, hw]
          rw [complete_of_persist_ok hp hper]
          simp only [steps, step, hp, hs, hc, hw, Progress.result?, and_self]

end Client

/-! ## What a request stands for -/

/-- The fault that a failure makes the making of a profile end in, if any. -/
def injected? : Failure → Option StoreFault
  | .creates => some Registry.createFault
  | .commits => some Registry.commitFault
  | .call c => some (.backend ("injected " ++ c.name ++ " failure"))
  | _ => none

/-- Making a profile may end in the fault, for a failure that is switched on. -/
def Injects (o : Office) (fault : StoreFault) : Prop :=
  ∃ f, injected? f = some fault ∧ IsOn o f

theorem injects_of_reach {o : Office} {c : Call} {e : StoreFault} (h : o.reach c = .error e) :
    Injects o e := by
  unfold Office.reach at h
  split at h
  · rename_i hc
    cases h; exact ⟨.call c, rfl, hc⟩
  · cases h

theorem injects_of_openEnrollment {o : Office} {user : UserId} {e : StoreFault}
    (h : openEnrollment o user = .error e) : Injects o e := by
  unfold openEnrollment at h
  cases hr : o.reach .establishing with
  | error e' => rw [hr] at h; cases h; exact injects_of_reach hr
  | ok _ => rw [hr] at h; cases h

/-- The client waits with a copy of the session of one run of the flow that is ready for a profile
    of the user. -/
structure Ready (session : SessionId) (flow : Option Uuid) (user : UserId) (c : Client) : Prop where
  waiting : c.progress = .waiting
  id : c.session.id = session
  nonce : c.session.nonce = flow
  user : c.request.user = user
  applicant : (c.session.held .applicant).isSome
  profileId : c.session.profileId = none
  cost : c.request.config.cost.check = .ok ()

/-- The client is the one that waited at first, on its way to a profile by the key: its transaction
    is of that profile alone, and its session is as it was up to the commit. -/
inductive Fits (key : IdempotencyKey) (c : Client) : Client → Prop
  | waiting : Fits key c { c with progress := .waiting }
  | prepared {p : Prepared} (h : p.draft.key = key) : Fits key c { c with progress := .prepared p }
  | started {p : Prepared} (h : p.draft.key = key) :
    Fits key c { c with progress := .started p .empty }
  | created {p : Prepared} {profile : Profile} (h : profile.key = key) :
    Fits key c { c with progress := .created p (Transaction.empty.stage profile) profile }
  | activated {p : Prepared} {profile : Profile} {activation : Activation} (h : profile.key = key) :
    Fits key c
      { c with progress := .activated p (Transaction.empty.stage profile) profile activation }
  | committed {p : Prepared} {profile : Profile} {activation : Activation} (h : profile.key = key) :
    Fits key c { c with progress := .committed p profile activation }
  | settled {s : Session} {profile : Profile} {result : Except FlowError Outcome}
    (h : profile.key = key) (hs : s.profileId = some profile.id) :
    Fits key c { c with session := s, progress := .settled profile result }
  | refused (e : FlowError) : Fits key c { c with progress := .refused e }
  | dropped : Fits key c { c with progress := .dropped }

/-- Why a request is refused for its key, or by a failure that is switched on. -/
def Refusal (key : IdempotencyKey) (o : Office) (e : FlowError) : Prop :=
  ∃ fault, e = .notCreated fault ∧
    ((fault = .duplicate key.text ∧ ∃ p ∈ o.registry.rows, p.key = key) ∨ Injects o fault)

/-- What the services and a client come to: the rows change by a commit alone, and a commit is of
    the one profile that was created for the request. -/
inductive Effect (key : IdempotencyKey) (o : Office) (c : Client) : Office → Client → Prop
  | quiet {o' : Office} {c' : Client} (registry : o'.registry = o.registry) (down : o'.down = o.down)
    (before : c'.progress.isBefore = true → c.progress.isBefore = true)
    (created : ∀ p', c'.progress.created? = some p' →
      ∃ p, c.progress.created? = some p ∧ p.id = p'.id)
    (committed : c'.progress.committed? = c.progress.committed?)
    (refused : ∀ e, c'.progress = .refused e → c.progress = .refused e ∨ Refusal key o e) :
    Effect key o c o' c'
  | creates {c' : Client} {p : Profile} (before : c.progress.isBefore = true)
    (after : c'.progress.isBefore = false) (created : c'.progress.created? = some p)
    (number : p.id = ⟨o.registry.nextId⟩) (old : c.progress.committed? = none)
    (committed : c'.progress.committed? = none) (refused : ∀ e, c'.progress ≠ .refused e) :
    Effect key o c { o with registry := { o.registry with nextId := o.registry.nextId + 1 } } c'
  | commits {c' : Client} {p : Profile} {r : Registry} (after : c'.progress.isBefore = false)
    (created : c.progress.created? = some p) (created' : c'.progress.created? = some p)
    (old : c.progress.committed? = none) (committed : c'.progress.committed? = some p)
    (refused : ∀ e, c'.progress ≠ .refused e) (hk : p.key = key)
    (written : o.registry.commit (Transaction.empty.stage p) = .ok r) :
    Effect key o c { o with registry := r } c'

section
variable {key : IdempotencyKey} {c₀ c : Client} {session : SessionId} {flow : Option Uuid}
  {user : UserId}

theorem Fits.of_ready (h : Ready session flow user c) : Fits key c c := by
  obtain ⟨r, s, progress⟩ := c
  cases h.waiting
  exact .waiting

/-- Up to the commit the session is as it was. -/
theorem Fits.session_eq (h : Fits key c₀ c) (hc : c.progress.committed? = none) :
    c.session = c₀.session := by
  cases h with
  | committed | settled => cases hc
  | waiting | prepared | started | created | activated | refused | dropped => rfl

/-- In the end it records the profile. -/
theorem Fits.recorded (h : Fits key c₀ c) {p : Profile} {result : Except FlowError Outcome}
    (hp : c.progress = .settled p result) : c.session.profileId = some p.id := by
  cases h <;> cases hp
  assumption

theorem Effect.refl (o : Office) (c : Client) : Effect key o c o c :=
  .quiet rfl rfl id (fun p h => ⟨p, h, rfl⟩) rfl fun _ => Or.inl

/-- No step switches a failure on. -/
theorem Effect.injects {o o' : Office} {c' : Client} (e : Effect key o c o' c') {fault : StoreFault}
    (h : Injects o' fault) : Injects o fault := by
  obtain ⟨f, hf, hon⟩ := h
  refine ⟨f, hf, ?_⟩
  cases e with
  | quiet registry down =>
    cases f <;> cases hf <;> simpa only [IsOn, registry, down] using hon
  | creates => cases f <;> cases hf <;> exact hon
  | commits _ _ _ _ _ _ _ written =>
    obtain ⟨-, rfl⟩ := Registry.commit_ok written
    cases f <;> cases hf <;> exact hon

theorem Effect.of_refused {o : Office} {e : FlowError} (hc : c.progress.committed? = none)
    (he : Refusal key o e) : Effect key o c o { c with progress := .refused e } :=
  .quiet rfl rfl (fun h => by cases h) (fun _ h => by cases h) hc.symm fun e' h => by
    cases h; exact Or.inr he

theorem refusal_of_create {o : Office} {draft : Draft} {e : StoreFault} (hk : draft.key = key)
    (h : o.registry.create .empty draft = .error e) : Refusal key o (.notCreated e) := by
  refine ⟨e, rfl, ?_⟩
  rcases Registry.create_error h with ⟨hf, rfl⟩ | ⟨⟨q, hq, hqk⟩, rfl⟩
  · exact Or.inr ⟨.creates, rfl, hf⟩
  · rw [hk] at hqk ⊢
    refine Or.inl ⟨rfl, q, ?_, hqk⟩
    simpa [Transaction.empty] using hq

theorem refusal_of_commit {o : Office} {profile : Profile} {e : StoreFault} (hk : profile.key = key)
    (h : o.registry.commit (Transaction.empty.stage profile) = .error e) :
    Refusal key o (.notCreated e) := by
  refine ⟨e, rfl, ?_⟩
  rcases Registry.commit_error h with ⟨hf, rfl⟩ | ⟨q, hq, ⟨q', hq', -, hqk⟩, rfl⟩
  · exact Or.inr ⟨.commits, rfl, hf⟩
  · have hq : q.key = key := by
      rw [List.mem_singleton.1 hq]; exact hk
    rw [hq] at hqk ⊢
    exact Or.inl ⟨rfl, q', hq', hqk⟩

/-- **What a step does**, and that the client stays on its way. -/
theorem Fits.step (h : Fits key c₀ c) (ready : Ready session flow user c₀)
    (hkey : .derive session flow user = key) (o : Office) :
    Fits key c₀ (c.step o).2 ∧ Effect key o c (c.step o).1 (c.step o).2 := by
  cases h with
  | waiting =>
    cases hp : prepare c₀.request.config c₀.session o c₀.request.password c₀.request.user
        c₀.request.provider c₀.request.draw with
    | error e =>
      obtain ⟨f, hf, rfl⟩ := prepare_error_of_ready ready.profileId ready.applicant ready.cost hp
      simp only [Client.step, hp]
      exact ⟨.refused _, .of_refused rfl ⟨f, rfl, Or.inr (injects_of_openEnrollment hf)⟩⟩
    | ok p =>
      simp only [Client.step, hp]
      refine ⟨.prepared ?_, .quiet rfl rfl (fun _ => rfl) (fun _ h => by cases h) rfl
        fun _ h => by cases h⟩
      rw [key_of_prepare hp, ready.id, ready.nonce, ready.user]; exact hkey
  | prepared hk =>
    rename_i p
    cases hs : o.reach .start with
    | error e =>
      simp only [Client.step, hs]
      exact ⟨.refused _, .of_refused rfl ⟨e, rfl, Or.inr (injects_of_reach hs)⟩⟩
    | ok _ =>
      simp only [Client.step, hs]
      exact ⟨.started hk, .quiet rfl rfl (fun _ => rfl) (fun _ h => by cases h) rfl
        fun _ h => by cases h⟩
  | started hk =>
    rename_i p
    cases hc : o.registry.create .empty p.draft with
    | error e =>
      simp only [Client.step, hc]
      exact ⟨.refused _, .of_refused rfl (refusal_of_create hk hc)⟩
    | ok x =>
      obtain ⟨profile, r, t⟩ := x
      simp only [Client.step, hc]
      obtain ⟨-, -, rfl, rfl, rfl⟩ := Registry.create_ok hc
      exact ⟨.created hk, .creates rfl rfl rfl rfl rfl rfl fun _ h => by cases h⟩
  | created hk =>
    rename_i p profile
    simp only [Client.step, activateNew_eq]
    have hlasting := launched_lasting o.registry.now profile
    refine ⟨.activated ((Profile.key_of_lasting hlasting).trans hk), .quiet rfl rfl
      (fun h => by cases h) (fun p' h => ?_) rfl fun _ h => by cases h⟩
    cases h
    exact ⟨profile, rfl, (Profile.id_of_lasting hlasting).symm⟩
  | activated hk =>
    rename_i p profile activation
    cases hw : o.registry.commit (Transaction.empty.stage profile) with
    | error e =>
      simp only [Client.step, hw]
      exact ⟨.refused _, .of_refused rfl (refusal_of_commit hk hw)⟩
    | ok r =>
      simp only [Client.step, hw]
      exact ⟨.committed hk, .commits rfl rfl rfl rfl rfl (fun _ h => by cases h) hk hw⟩
  | committed hk =>
    rename_i p profile activation
    simp only [Client.step]
    obtain ⟨hbehind, -⟩ := behind_settle (d := ⟨c₀.session, o⟩) ready.profileId c₀.request.password
      c₀.request.user c₀.request.provider p profile activation
    refine ⟨.settled hk ?_, .quiet hbehind.registry hbehind.down (fun h => by cases h)
      (fun p' h => ?_) rfl fun _ h => by cases h⟩
    · rw [hbehind.profileId]; exact held_recorded_profileId _ _ _
    · cases h; exact ⟨profile, rfl, rfl⟩
  | settled hk hs => exact ⟨.settled hk hs, .refl _ _⟩
  | refused e => exact ⟨.refused e, .refl _ _⟩
  | dropped => exact ⟨.dropped, .refl _ _⟩

theorem Fits.drop (h : Fits key c₀ c) (o : Office) :
    Fits key c₀ c.drop ∧ Effect key o c o c.drop := by
  have given (c : Client) (hc : c.progress.committed? = none) :
      Effect key o c o { c with progress := .dropped } :=
    .quiet rfl rfl (fun h => by cases h) (fun _ h => by cases h) hc.symm fun _ h => by cases h
  cases h with
  | waiting | prepared | started | created | activated | dropped => exact ⟨.dropped, given _ rfl⟩
  | committed hk => exact ⟨.committed hk, .refl _ _⟩
  | settled hk hs => exact ⟨.settled hk hs, .refl _ _⟩
  | refused e => exact ⟨.refused e, .refl _ _⟩

end

end Proofing.Completion
