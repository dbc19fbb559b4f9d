import Proofing.Proofs.Completion.Crowd
import Proofing.Proofs.Completion.Ways
import Proofing.Proofs.Sealing
import Proofing.Proofs.Session.Storage
/-
  Proofing — a request with a copy of the session.

  A copy may be one that has a profile already, so a client with a copy is on its
  way to a profile or will be turned away (`Course`).  `Crowd.Shared` is what
  clients with one key keep by their steps, and `Crowd.Answered` what they keep
  as long as nothing fails.
-/
namespace Proofing.Completion

/-! ## Copies -/

/-- A copy of a session, which may have a profile by now. -/
structure Kin (config : Config) (s₀ s : Session) : Prop where
  under : s.Under config
  id : s.id = s₀.id
  nonce : s.nonce = s₀.nonce
  applicant : s.held .applicant = s₀.held .applicant

/-- A copy that is stored is loaded again. -/
theorem Kin.reload {config : Config} {s₀ s : Session} (h : Kin config s₀ s) {web : WebSession}
    (hweb : web.id = s₀.id) :
    Kin config s₀ (.load (s.store web) config) ∧
      (Session.load (s.store web) config).profileId = s.profileId := by
  rw [Session.load_store_eq h.under]
  exact ⟨⟨h.under.update .., hweb, h.nonce, h.applicant⟩, rfl⟩

/-- Whatever the services do, the client gets no profile. -/
inductive Barred (c : Client) : Prop
  | waiting (h : c.progress = .waiting)
      (fails : ∀ o, ∃ e, prepare c.request.config c.session o c.request.password c.request.user
        c.request.provider c.request.draw = .error e)
  | refused {e : FlowError} (h : c.progress = .refused e)

/-- Where a client of one run of the flow can be: on its way to a profile, or turned away. -/
inductive Course (s₀ : Session) (user : UserId) (c : Client) : Prop
  | early {c₀ : Client} (ready : Ready s₀.id s₀.nonce user c₀)
      (fits : Fits (.derive s₀.id s₀.nonce user) c₀ c)
  | barred (h : Barred c)

section
variable {config : Config} {s₀ : Session} {user : UserId} {c : Client}

theorem cost_of_make {applicant : Pii} {provider : Option ServiceProvider} {cost : KeyCost}
    {password : Password} {session : SessionId} {flow : Option Uuid} {conditions : Conditions}
    {draw : Draft.Draw} {d : Draft}
    (h : Draft.make applicant user provider cost password session flow conditions draw = .ok d) :
    cost.check = .ok () := by
  obtain ⟨hlock, -⟩ := Draft.make_ok h
  cases hc : cost.check with
  | ok => rfl
  | error e => rw [Envelope.lock_error hc] at hlock; cases hlock

/-- A client that waits with a copy can get a profile, or it cannot. -/
theorem course_of_waiting (hw : c.progress = .waiting) (kin : Kin config s₀ c.session)
    (hu : c.request.user = user) : Course s₀ user c := by
  by_cases h : ∃ o p, prepare c.request.config c.session o c.request.password c.request.user
      c.request.provider c.request.draw = .ok p
  · obtain ⟨o, p, hp⟩ := h
    obtain ⟨hid, ha, -, hd⟩ := prepare_ok_iff.1 hp
    have ready : Ready s₀.id s₀.nonce user c :=
      ⟨hw, kin.id, kin.nonce, hu, Option.isSome_iff_exists.2 ⟨_, ha⟩, hid, cost_of_make hd⟩
    exact .early ready (.of_ready ready)
  · refine .barred (.waiting hw fun o => ?_)
    cases hp : prepare c.request.config c.session o c.request.password c.request.user
        c.request.provider c.request.draw with
    | error e => exact ⟨e, rfl⟩
    | ok p => exact absurd ⟨o, p, hp⟩ h

/-- A client that can get no profile only comes to be refused. -/
theorem Barred.step (h : Barred c) (o : Office) :
    ∃ e, c.step o = (o, { c with progress := .refused e }) := by
  obtain ⟨r, s, progress⟩ := c
  cases h with
  | waiting hw fails =>
    obtain ⟨e, he⟩ := fails o
    cases hw
    exact ⟨e, by simp only [Client.step, he]⟩
  | refused hr => cases hr; exact ⟨_, rfl⟩

theorem Barred.committed? (h : Barred c) : c.progress.committed? = none := by
  cases h with
  | waiting hw => rw [hw]; rfl
  | refused hr => rw [hr]; rfl

theorem request_step (c : Client) (o : Office) : (c.step o).2.request = c.request := by
  obtain ⟨r, s, progress⟩ := c
  cases progress <;> simp only [Client.step] <;> split <;> rfl

theorem Course.step (h : Course s₀ user c) (o : Office) : Course s₀ user (c.step o).2 := by
  cases h with
  | early ready fits => exact .early ready (fits.step ready rfl o).1
  | barred h =>
    obtain ⟨e, he⟩ := h.step o
    rw [he]
    exact .barred (.refused rfl)

/-- Nothing but what follows a commit changes the copy. -/
theorem session_step (c : Client) (o : Office) : (c.step o).2.session = c.session ∨
    ∃ p profile activation, c.progress = .committed p profile activation := by
  obtain ⟨r, s, progress⟩ := c
  cases progress with
  | committed p profile activation => exact .inr ⟨p, profile, activation, rfl⟩
  | _ => refine .inl ?_; simp only [Client.step] <;> split <;> rfl

theorem session_step_of_uncommitted {o : Office}
    (h : (c.step o).2.progress.committed? = none) : (c.step o).2.session = c.session := by
  refine (session_step c o).resolve_right ?_
  rintro ⟨p, profile, activation, hp⟩
  obtain ⟨r, s, progress⟩ := c
  cases hp
  cases h

/-- Noting a profile leaves a copy of the session. -/
theorem Kin.settle (kin : Kin config s₀ c.session) (hid : c.session.profileId = none)
    (password : Password) (provider : Option ServiceProvider) (o : Office) (p : Prepared)
    (profile : Profile) (activation : Activation) :
    Kin config s₀
      ((settle password user provider p profile activation).perform ⟨c.session, o⟩).2.session := by
  obtain ⟨hbehind, -⟩ := behind_settle (d := ⟨c.session, o⟩) hid password user provider p profile
    activation
  have happlicant := hbehind.held .applicant
  obtain ⟨staged, hs⟩ := hbehind.session
  refine ⟨?_, by rw [hs]; exact kin.id, by rw [hs]; exact kin.nonce, ?_⟩
  · rw [hs]
    exact kin.under.update ..
  · rw [happlicant, ← kin.applicant]
    exact held_recorded_of_not_mem _ _ _ (by decide)

/-- The copy stays one of the session. -/
theorem Course.kin_step (h : Course s₀ user c) (kin : Kin config s₀ c.session) (o : Office) :
    Kin config s₀ (c.step o).2.session := by
  rcases session_step c o with hs | ⟨p, profile, activation, hp⟩
  · rw [hs]; exact kin
  · cases h with
    | early ready fits =>
      cases fits with
      | committed => exact kin.settle ready.profileId _ _ o _ _ _
      | waiting | prepared | started | created | activated | settled | refused | dropped => cases hp
    | barred h =>
      have hnone := h.committed?
      rw [hp] at hnone
      cases hnone

/-- A request that has committed a profile and come to its end records it. -/
theorem Course.recorded (h : Course s₀ user c) {p : Profile}
    (hp : c.progress.committed? = some p) (hr : c.progress.result?.isSome) :
    c.session.profileId = some p.id := by
  cases h with
  | early ready fits =>
    cases fits with
    | settled hk hs => cases hp; exact hs
    | committed => cases hr
    | waiting | prepared | started | created | activated | refused | dropped => cases hp
  | barred h => rw [h.committed?] at hp; cases hp

end

/-! ## Requests that share the services -/

/-- What holds of clients with one key all the time: no more than one of them commits a profile. -/
structure Crowd.Shared {n : Nat} (key : IdempotencyKey) (start : UInt64) (w : Crowd n) : Prop where
  numbering : ∃ order, Numbering start w order
  committed : ∀ i p, (w.clients i).progress.committed? = some p →
    p.key = key ∧ p.withoutKey ∈ w.office.registry.rows
  single : ∀ i j, w.Committed i → w.Committed j → i = j

/-- What holds of clients with one key where no failure is switched on: whoever is refused is so for
    a profile of one of them. -/
structure Crowd.Answered {n : Nat} (key : IdempotencyKey) (w : Crowd n) : Prop where
  rows : ∀ p ∈ w.office.registry.rows, p.key = key → ∃ i, w.Committed i
  refused : ∀ i e, (w.clients i).progress = .refused e → ∃ j, w.Committed j
  quiet : ∀ fault, ¬ Injects w.office fault

section
variable {n : Nat} {key : IdempotencyKey} {start : UInt64} {w : Crowd n} {i : Fin n} {o' : Office}
  {c' : Client}

/-- No row is written. -/
theorem Crowd.Shared.same (h : w.Shared key start)
    (numbering : ∃ order, Crowd.Numbering start (w.put i (o', c')) order)
    (rows : o'.registry.rows = w.office.registry.rows)
    (committed : c'.progress.committed? = (w.clients i).progress.committed?) :
    (w.put i (o', c')).Shared key start where
  numbering := numbering
  committed j p hp := by
    rw [Crowd.committed?_put committed] at hp
    obtain ⟨hk, hrow⟩ := h.committed j p hp
    exact ⟨hk, by rw [← rows] at hrow; exact hrow⟩
  single j l hj hl := by
    rw [Crowd.Committed, Crowd.committed?_put committed] at hj hl
    exact h.single j l hj hl

theorem Crowd.Shared.effect (h : w.Shared key start) (few : n ≤ 2 ^ 64)
    (e : Effect key w.office (w.clients i) o' c') : (w.put i (o', c')).Shared key start := by
  obtain ⟨order, ho⟩ := h.numbering
  have hnumbering := ho.effect e
  cases e with
  | quiet registry _ _ _ committed => exact h.same hnumbering (by rw [registry]) committed
  | creates _ _ _ _ old committed => exact h.same hnumbering rfl (committed.trans old.symm)
  | @commits _ p r after created created' old committed refused hk written =>
    -- whoever has committed a profile by the key keeps others from it
    have alone (j : Fin n) (hj : j ≠ i) : ¬ w.Committed j := by
      intro hc
      obtain ⟨q, hq⟩ := Option.isSome_iff_exists.1 hc
      obtain ⟨hqk, hrow⟩ := h.committed j q hq
      exact (ho.apart few created written hj hq hrow).2 (hqk.trans hk.symm)
    obtain ⟨-, rfl⟩ := Registry.commit_ok written
    refine ⟨hnumbering, fun j q hq => ?_, fun j l hj hl => ?_⟩
    · by_cases hji : j = i
      · subst hji
        rw [Crowd.clients_put_self, committed] at hq
        cases hq
        exact ⟨hk, Registry.mem_place_self _ _⟩
      · rw [Crowd.clients_put_of_ne w hji] at hq
        exact absurd (Option.isSome_iff_exists.2 ⟨q, hq⟩) (alone j hji)
    · have only {o' : Office} {j : Fin n} (hj : (w.put i (o', c')).Committed j) : j = i := by
        by_contra hji
        exact alone j hji ((Crowd.committed_put_of_ne w hji _).1 hj)
      rw [only hj, only hl]

/-- No profile is committed. -/
theorem Crowd.Answered.same (h : w.Answered key) (rows : o'.registry.rows = w.office.registry.rows)
    (committed : c'.progress.committed? = (w.clients i).progress.committed?)
    (refused : ∀ e, c'.progress = .refused e → ∃ j, w.Committed j)
    (injects : ∀ fault, Injects o' fault → Injects w.office fault) :
    (w.put i (o', c')).Answered key := by
  have stays : (∃ j, w.Committed j) → ∃ j, (w.put i (o', c')).Committed j :=
    fun ⟨j, hj⟩ => ⟨j, by rwa [Crowd.Committed, Crowd.committed?_put committed]⟩
  constructor
  case rows =>
    intro p hp hk
    refine stays (h.rows p ?_ hk)
    rwa [← rows]
  case refused =>
    exact Crowd.forall_put
      (P := fun _ c => ∀ e, c.progress = .refused e → ∃ j, (w.put i (o', c')).Committed j)
      (fun e he => stays (refused e he)) fun j _ e he => stays (h.refused j e he)
  case quiet => exact fun fault hin => h.quiet fault (injects fault hin)

theorem Crowd.Answered.effect (h : w.Answered key) (e : Effect key w.office (w.clients i) o' c') :
    (w.put i (o', c')).Answered key := by
  have injects (fault : StoreFault) (h : Injects o' fault) : Injects w.office fault := e.injects h
  cases e with
  | quiet registry _ _ _ committed refused =>
    refine h.same (by rw [registry]) committed (fun e he => ?_) injects
    rcases refused e he with he | ⟨fault, -, ⟨-, q, hq, hqk⟩ | hin⟩
    · exact h.refused i e he
    · exact h.rows q hq hqk
    · exact absurd hin (h.quiet fault)
  | creates _ _ _ _ old committed refused =>
    exact h.same rfl (committed.trans old.symm) (fun e he => absurd he (refused e)) injects
  | commits _ _ _ _ committed =>
    have hi (o' : Office) : (w.put i (o', c')).Committed i := by
      rw [Crowd.committed_put_self, committed]
      rfl
    exact ⟨fun _ _ _ => ⟨i, hi _⟩, fun _ _ _ => ⟨i, hi _⟩,
      fun fault hin => h.quiet fault (injects fault hin)⟩

/-- A client for whom nothing was created is turned away, or gets another copy. -/
theorem Crowd.Shared.idle (h : w.Shared key start)
    (before : c'.progress.isBefore = true → (w.clients i).progress.isBefore = true)
    (created : c'.progress.created? = none)
    (committed : c'.progress.committed? = (w.clients i).progress.committed?) :
    (w.put i (w.office, c')).Shared key start := by
  obtain ⟨order, ho⟩ := h.numbering
  refine h.same ⟨order, ho.put rfl before fun p' hp' => ?_⟩ rfl committed
  rw [created] at hp'
  cases hp'

end

end Proofing.Completion
