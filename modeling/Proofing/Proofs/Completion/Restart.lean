import Proofing.Proofs.Completion.Flows
import Proofing.Proofs.Session.Restart
/-
  Proofing — a flow is restarted in its web session.

  * `refusal_of_complete` says for which reasons a profile is not created: its own
    key is in the registry, or a failure is switched on;
  * the key of the new run is that of no earlier one (`Origin.key_ne_of_session`),
    so only requests of the new run keep each other from a profile (`Separate`);
  * `restarts_clear` says so of a session that is cleared, and what is left of it.
-/
namespace Proofing.Completion

open IdempotencyKey (Collide Origin)

/-! ## Refusals -/

section
variable {config : Config} {s : Session} {o : Office} {password : Password} {user : UserId}
  {provider : Option ServiceProvider} {draw : Draft.Draw}

theorem injects_of_prepare {fault : StoreFault}
    (h : prepare config s o password user provider draw = .error (.notCreated fault)) :
    Injects o fault := by
  cases hid : s.profileId with
  | some id => rw [prepare, hid] at h; cases h
  | none =>
    cases ha : s.held .applicant with
    | none => rw [prepare, hid, ha] at h; cases h
    | some applicant =>
      cases he : openEnrollment o user with
      | error e => rw [prepare, hid, ha, he] at h; cases h; exact injects_of_openEnrollment he
      | ok enrollment => rw [prepare_eq hid ha he] at h; split at h <;> cases h

theorem refusal_of_persist {draft : Draft} {e : StoreFault} {r : Registry}
    (h : persist o draft = (.error e, r)) : Refusal draft.key o (.notCreated e) := by
  cases hs : o.reach .start with
  | error e' => rw [persist, hs] at h; cases h; exact ⟨_, rfl, .inr (injects_of_reach hs)⟩
  | ok _ =>
    cases hc : o.registry.create .empty draft with
    | error e' => rw [persist, hs, hc] at h; cases h; exact refusal_of_create rfl hc
    | ok x =>
      obtain ⟨c, r', t⟩ := x
      rw [persist_eq hs hc] at h
      split at h
      · rename_i hw
        cases h
        obtain ⟨-, -, -, rfl, -⟩ := Registry.create_ok hc
        -- but for the number that is used up, the commit finds the registry as it was
        obtain ⟨fault, he, ⟨hd, hrow⟩ | ⟨f, hf, hon⟩⟩ :=
          @refusal_of_commit _ { o with registry := { o.registry with
            nextId := o.registry.nextId + 1 } } _ _ (upcoming_key o.registry draft) hw
        · exact ⟨fault, he, .inl ⟨hd, hrow⟩⟩
        · exact ⟨fault, he, .inr ⟨f, hf, by cases f <;> exact hon⟩⟩
      · cases h

/-- Why no profile is created for a session that has an applicant and no profile. -/
theorem refusal_of_complete {d : Desk} {fault : StoreFault}
    (h : ((complete config password user provider draw).perform d).1 = .error (.notCreated fault)) :
    Refusal (.derive d.session.id d.session.nonce user) d.office (.notCreated fault) := by
  cases hp : prepare config d.session d.office password user provider draw with
  | error e =>
    rw [complete_of_prepare_error hp] at h
    cases h
    exact ⟨fault, rfl, .inr (injects_of_prepare hp)⟩
  | ok p =>
    rcases hper : persist d.office p.draft with ⟨e | ⟨profile, activation⟩, r⟩
    · rw [complete_of_persist_error hp hper] at h
      cases h
      rw [← key_of_prepare hp]
      exact refusal_of_persist hper
    · have hid : ({ d with office := { d.office with registry := r } } : Desk).session.profileId =
        none := (prepare_ok_iff.1 hp).1
      rw [complete_of_persist_ok hp hper] at h
      exact absurd ((behind_settle hid password user provider p profile activation).2 _ h) id

end

/-- No failure that is switched on looks like a key that is taken. -/
theorem not_injected_duplicate (f : Failure) (k : String) : injected? f ≠ some (.duplicate k) := by
  cases f <;> simp [injected?, Registry.createFault, Registry.commitFault]

theorem row_of_duplicate {key : IdempotencyKey} {o : Office} {k : String}
    (h : Refusal key o (.notCreated (.duplicate k))) :
    k = key.text ∧ ∃ p ∈ o.registry.rows, p.key = key := by
  obtain ⟨fault, he, ⟨hd, hrow⟩ | ⟨f, hf, -⟩⟩ := h <;> cases he
  · exact ⟨StoreFault.duplicate.inj hd, hrow⟩
  · exact absurd hf (not_injected_duplicate f k)

/-- The profiles that are there stay. -/
theorem kept_complete {config : Config} {password : Password} {user : UserId}
    {provider : Option ServiceProvider} {draw : Draft.Draw} {d : Desk}
    (reachable : d.office.registry.Reachable) {q : Profile} (hq : q ∈ d.office.registry.rows) :
    q ∈ ((complete config password user provider draw).perform d).2.office.registry.rows := by
  cases hp : prepare config d.session d.office password user provider draw with
  | error e => rw [complete_of_prepare_error hp]; exact hq
  | ok p =>
    rcases h : persist d.office p.draft with ⟨e | ⟨profile, activation⟩, r⟩
    · rw [complete_of_persist_error hp h]
      obtain ⟨n, -, rfl⟩ := persist_error h
      exact hq
    · rw [registry_of_persist hp h]
      exact (row_of_persist reachable h).2.2.mem_iff.2 (List.mem_cons_of_mem _ hq)

/-! ## Requests of several runs -/

/-- What becomes of requests of a new run and of earlier ones that are made at once. -/
structure Separate {m : Nat} (new : Origin) (earlier : List Origin) (origin : Fin m → Origin)
    (w₀ : Crowd m) (ms : List (Move m)) (w : Crowd m) : Prop where
  /-- The profiles that were there stay as they are. -/
  kept : ∀ p ∈ w₀.office.registry.rows, p ∈ w.office.registry.rows
  /-- A request of the new run whose key is taken has found a profile of the same run: one that was
      there, or that of another request. -/
  taken : ∀ i k, origin i = new → (w.clients i).progress = .refused (.notCreated (.duplicate k)) →
    k = new.key.text ∧
      ((∃ p ∈ w₀.office.registry.rows, p.key = new.key ∧ ∀ g ∈ earlier, p.key ≠ g.key) ∨
        ∃ j, j ≠ i ∧ origin j = new ∧ w.Committed j)
  /-- At most one request of the new run commits a profile. -/
  once : ∀ i j, origin i = new → origin j = new → w.Committed i → w.Committed j → i = j
  /-- Beside it no other comes to its end with a profile. -/
  collide : ∀ i j result, origin i = new → origin j = new → w.Committed j → i ≠ j →
    (w.clients i).progress.result? = some result → ∃ fault, result = .error (.notCreated fault) ∧
      (fault = .duplicate new.key.text ∨ Crowd.Injected w₀ ms fault)
  /-- A request comes to its end by six steps of its own, unless it is given up. -/
  ended : ∀ i, 6 ≤ ms.count (.step i) → .drop i ∉ ms → (w.clients i).progress.result?.isSome = true
  /-- If nothing is injected, and no profile was there but those of other runs, one request of the
      new run that comes to its end is enough for a profile. -/
  served : (∀ fault, ¬ Crowd.Injected w₀ ms fault) →
    (∀ p ∈ w₀.office.registry.rows, p.key ≠ new.key) →
    (∃ i, origin i = new ∧ (w.clients i).progress.result?.isSome = true) →
      ∃ j, origin j = new ∧ w.Committed j

section
variable {m : Nat} {new : Origin} {earlier : List Origin} {origin : Fin m → Origin} {w₀ : Crowd m}

theorem separate_run (apart : ∀ g ∈ earlier, new.key ≠ g.key) (waits : w₀.Waits origin)
    (known : ∀ i, origin i ∈ new :: earlier) (spare : w₀.office.registry.Spare m)
    (ms : List (Move m)) : Separate new earlier origin w₀ ms (w₀.run ms) := by
  have few : m ≤ 2 ^ 64 := by
    obtain ⟨_, _, -, few, -⟩ := spare
    omega
  have hkeyed := Crowd.keyed_run waits few (fun p hp k hk => spare.unused hp hk) ms
  -- a client with the key of the new run is of the new run
  have own {j : Fin m} (hj : (origin j).key = new.key) : origin j = new := by
    rcases List.mem_cons.1 (known j) with h | h
    exacts [h, absurd hj.symm (apart _ h)]
  have single (i j : Fin m) (hi : origin i = new) (hj : origin j = new)
      (ci : (w₀.run ms).Committed i) (cj : (w₀.run ms).Committed j) : i = j :=
    hkeyed.single i j ci cj (by rw [hi, hj])
  have turned (i : Fin m) (hi : origin i = new) (e : FlowError)
      (he : ((w₀.run ms).clients i).progress = .refused e) :
      ∃ fault, e = .notCreated fault ∧
        ((fault = .duplicate new.key.text ∧ ((∃ p ∈ w₀.office.registry.rows, p.key = new.key) ∨
          ∃ j, origin j = new ∧ (w₀.run ms).Committed j)) ∨ Crowd.Injected w₀ ms fault) := by
    obtain ⟨fault, rfl, ⟨hd, hwhy⟩ | hin⟩ := hkeyed.refused i e he
    · simp only [hi] at hd hwhy
      exact ⟨fault, rfl, .inl ⟨hd, hwhy.imp_right fun ⟨j, hj, hk⟩ => ⟨j, own hk, hj⟩⟩⟩
    · exact ⟨fault, rfl, .inr hin⟩
  constructor
  case kept => exact hkeyed.kept
  case once => exact single
  case taken =>
    intro i k hi he
    obtain ⟨fault, hf, ⟨hd, hwhy⟩ | ⟨f, hf', -⟩⟩ := turned i hi _ he <;> cases hf
    · refine ⟨StoreFault.duplicate.inj hd, hwhy.imp ?_ ?_⟩
      · rintro ⟨p, hp, hk⟩
        exact ⟨p, hp, hk, fun g hg => hk ▸ apart g hg⟩
      · rintro ⟨j, hj, cj⟩
        refine ⟨j, ?_, hj, cj⟩
        rintro rfl
        rw [Crowd.Committed, he] at cj
        cases cj
    · exact absurd hf' (not_injected_duplicate f k)
  case collide =>
    intro i j result hi hj cj hij hr
    have hi' : ((w₀.run ms).clients i).progress.committed? = none :=
      Option.not_isSome_iff_eq_none.1 fun ci => hij (single i j hi hj ci cj)
    obtain ⟨e, he, rfl⟩ := Progress.refused_of_result hr hi'
    obtain ⟨fault, rfl, hwhy⟩ := turned i hi e he
    exact ⟨fault, rfl, hwhy.imp_left And.left⟩
  case ended => exact fun i => Crowd.ended_of_steps (waits i).waiting
  case served =>
    rintro hnone hfree ⟨i, hi, hr⟩
    obtain ⟨result, hr⟩ := Option.isSome_iff_exists.1 hr
    by_cases ci : (w₀.run ms).Committed i
    · exact ⟨i, hi, ci⟩
    · obtain ⟨e, he, -⟩ := Progress.refused_of_result hr (Option.not_isSome_iff_eq_none.1 ci)
      obtain ⟨fault, -, ⟨-, ⟨p, hp, hk⟩ | hj⟩ | hin⟩ := turned i hi e he
      exacts [absurd hk (hfree p hp), hj, absurd hin (hnone fault)]

end

/-! ## Restarting -/

/-- What comes of starting the flow of a session anew, for a user and the earlier runs. -/
structure Restarts (config : Config) (s : Session) (web : WebSession) (n : Uuid) (user : UserId)
    (earlier : List Origin) : Prop where
  anew : Session.Anew s.id config n web (s.clear web n).1 (s.clear web n).2
  /-- Whatever is done with the session then belongs to the new run. -/
  run : ∀ acts : List Act, (∀ web', .reload web' ∈ acts → web'.id = s.id) → ∀ taken,
    (acts.foldl (Session.Run.next config) ⟨(s.clear web n).1, taken⟩).session.OfFlow s.id (some n)
  /-- If the key is taken, then by a profile that is of no earlier run. -/
  taken : ∀ (d : Desk) config' password provider draw k, d.session.OfFlow s.id (some n) →
    ((complete config' password user provider draw).perform d).1 =
        .error (.notCreated (.duplicate k)) →
      ∃ p ∈ d.office.registry.rows, p.key = (Origin.mk s.id (some n) user).key ∧
        ∀ g ∈ earlier, p.key ≠ g.key
  /-- The profiles of earlier runs stay as they are. -/
  kept : ∀ (d : Desk) config' password provider draw, d.office.registry.Reachable →
    ∀ p ∈ d.office.registry.rows,
      p ∈ ((complete config' password user provider draw).perform d).2.office.registry.rows
  /-- So it is if any number of requests of all the runs are made at once. -/
  separate : ∀ {m : Nat} (w₀ : Crowd m) (origin : Fin m → Origin), w₀.Waits origin →
    (∀ i, origin i ∈ ⟨s.id, some n, user⟩ :: earlier) → w₀.office.registry.Spare m → ∀ ms,
      Separate ⟨s.id, some n, user⟩ earlier origin w₀ ms (w₀.run ms)

/-- **A flow that is restarted starts clean, and is a run of its own**: nothing but the nonce is
    left, and a profile of an earlier run in the same web session is never in the way. -/
theorem restarts_clear (config : Config) (s : Session) (web : WebSession) (n : Uuid) (user : UserId)
    (earlier : List Origin) (distinct : config.sessionSpace ≠ config.visitSpace)
    (under : s.Under config) (same : web.id = s.id)
    (before : ∀ g ∈ earlier, g.session = s.id ∧ g.flow ≠ some n)
    (apart : ∀ g ∈ earlier, ¬ Collide (Origin.mk s.id (some n) user).octets g.octets) :
    Restarts config s web n user earlier := by
  have hkey : ∀ g ∈ earlier, (Origin.mk s.id (some n) user).key ≠ g.key := by
    intro g hg
    obtain ⟨hs, hf⟩ := before g hg
    refine Origin.key_ne_of_session hs.symm ?_ (apart g hg)
    rintro rfl
    exact hf rfl
  have hanew := Session.anew_clear distinct under same n
  constructor
  case anew => exact hanew
  case run =>
    intro acts own taken
    rw [hanew.session]
    exact Session.flow_run (Session.under_anew s.id config n) ⟨rfl, rfl⟩ own taken
  case taken =>
    intro d config' password provider draw k hd h
    obtain ⟨-, p, hp, hk⟩ := row_of_duplicate (refusal_of_complete h)
    rw [hd.id, hd.nonce] at hk
    exact ⟨p, hp, hk, fun g hg => hk ▸ hkey g hg⟩
  case kept => exact fun d _ _ _ _ reachable p hp => kept_complete reachable hp
  case separate => exact fun w₀ origin waits known spare => separate_run hkey waits known spare

open Registry.Traffic (zeroUser sampleDraft fresh)

/-- A nonce of octets that are all the same. -/
def evenNonce (x : UInt8) : Uuid := ⟨List.replicate 16 x, rfl⟩

/-- A run in one web session. -/
def evenRun (flow : Option Uuid) : Origin :=
  ⟨⟨"web"⟩, flow, zeroUser⟩

/-- A session with a profile, in the second run of the flow. -/
def secondSession : Session :=
  { firstDesk.session.put .profileId (some ⟨1⟩) with nonce := some (evenNonce 1) }

/-- A profile is made in the first run. -/
def firstHistory : List Registry.Act :=
  [.start 0, .create 0 { sampleDraft "" with key := (evenRun none).key }, .commit 0]

/-- Two requests of the third run and a late one of the second, while the registry has the profile of
    the first. -/
def mixed : Crowd 3 where
  office := { firstDesk.office with registry := ((fresh ⟨7⟩).run firstHistory).registry }
  clients i :=
    ⟨⟨.light, ⟨"secret"⟩, zeroUser, none, zeroDraw⟩,
      { firstDesk.session with nonce := some (evenNonce (if i = 2 then 1 else 2)) }, .waiting⟩

theorem restarts_clear_second :
    let web : WebSession := secondSession.store ⟨⟨"web"⟩, [("cart", .obj [])]⟩
    let third := evenRun (some (evenNonce 2))
    let earlier := [evenRun none, evenRun (some (evenNonce 1))]
    let origin : Fin 3 → Origin := fun i => evenRun (some (evenNonce (if i = 2 then 1 else 2)))
    let ms : List (Move 3) := [.step 0, .step 2, .step 1, .step 1, .step 0, .step 2, .step 2, .step 0,
      .step 1, .step 2, .step 0, .step 0, .step 1, .step 1, .step 2, .step 0, .step 1, .step 2]
    Config.light.sessionSpace ≠ Config.light.visitSpace ∧ secondSession.Under .light ∧
      web.id = secondSession.id ∧
      (∀ g ∈ earlier, g.session = secondSession.id ∧ g.flow ≠ some (evenNonce 2)) ∧
      (∀ g ∈ earlier, ¬ Collide third.octets g.octets) ∧
      Restarts .light secondSession web (evenNonce 2) zeroUser earlier ∧
      mixed.Waits origin ∧ (∀ i, origin i ∈ third :: earlier) ∧ mixed.office.registry.Spare 3 ∧
      Separate third earlier origin mixed ms (mixed.run ms) ∧
      ∃ i j, origin i = third ∧ origin j = third ∧ (mixed.run ms).Committed i ∧
        ((mixed.run ms).clients j).progress.result? =
          some (.error (.notCreated (.duplicate third.key.text))) := by
  intro web third earlier origin ms
  have distinct : Config.light.sessionSpace ≠ Config.light.visitSpace := by decide
  have under : secondSession.Under .light := ⟨rfl, rfl, rfl⟩
  have before : ∀ g ∈ earlier, g.session = secondSession.id ∧ g.flow ≠ some (evenNonce 2) := by
    decide
  have apart : ∀ g ∈ earlier, ¬ Collide third.octets g.octets := by
    have hshort : ∀ g ∈ third :: earlier, g.octets.length ≤ Crypto.Blake2b.blockSize := by
      decide +kernel
    obtain ⟨hthird, hearlier⟩ := List.forall_mem_cons.1 hshort
    rintro g hg ⟨-, hhash⟩
    rw [Crypto.Blake2b.hash_of_le hthird, Crypto.Blake2b.hash_of_le (hearlier g hg)] at hhash
    revert g hg
    decide +kernel
  have waits : mixed.Waits origin := fun i => ⟨rfl, rfl, rfl, rfl, rfl, rfl, rfl⟩
  have known : ∀ i, origin i ∈ third :: earlier := by decide
  have spare : mixed.office.registry.Spare 3 :=
    ⟨⟨7⟩, firstHistory, ⟨trivial, trivial, trivial, trivial⟩, by decide, rfl⟩
  have hall := restarts_clear .light secondSession web (evenNonce 2) zeroUser earlier distinct under rfl
    before apart
  have separate := hall.separate mixed origin waits known spare ms
  have quiet : ∀ fault, ¬ Crowd.Injected mixed ms fault :=
    Crowd.not_injected (not_isOn_of_off rfl rfl rfl rfl rfl rfl rfl) fun f hf => by simp [ms] at hf
  -- the profile that is there is of the first run
  have others : ∀ p ∈ mixed.office.registry.rows, p.key ≠ third.key := by
    intro p hp
    have first : mixed.office.registry.rows.map (·.key) = [(evenRun none).key] := rfl
    have hkey : p.key = (evenRun none).key :=
      List.mem_singleton.1 (first ▸ List.mem_map_of_mem hp)
    have hne : third.key ≠ (evenRun none).key :=
      Origin.key_ne_of_session rfl (by decide) (apart _ List.mem_cons_self)
    rw [hkey]
    exact hne.symm
  have steps : ∀ i, 6 ≤ ms.count (.step i) ∧ .drop i ∉ ms := by decide
  have ended (i : Fin 3) := separate.ended i (steps i).1 (steps i).2
  obtain ⟨i, hi, ci⟩ := separate.served quiet others ⟨0, rfl, ended 0⟩
  obtain ⟨j, hj, hji⟩ : ∃ j, origin j = third ∧ j ≠ i := by
    by_cases h : i = 0
    exacts [⟨1, rfl, by rw [h]; decide⟩, ⟨0, rfl, fun h' => h h'.symm⟩]
  obtain ⟨result, hr⟩ := Option.isSome_iff_exists.1 (ended j)
  obtain ⟨fault, rfl, rfl | hin⟩ := separate.collide j i result hj hi ci hji hr
  · exact ⟨distinct, under, rfl, before, apart, hall, waits, known, spare, separate, i, j, hi, hj, ci,
      hr⟩
  · exact absurd hin (quiet fault)

end Proofing.Completion
