import Proofing.Proofs.Completion.Recovery
import Proofing.Proofs.Session.Storage
/-
  Proofing — staged data is taken into the vault once.

  Data waits in a session while it is moved (`Means.step`), the session is stored
  and loaded again, and the vault fails and works (`Attempt`).

  * `Waits` is how it is before a move has succeeded, `Idle` how it is afterwards,
    or from the start where there is nothing to move; each says what the next
    attempt comes to (`Waits.next`, `Idle.next`), and so does a whole run of them
    (`Waits.run`, `Idle.run`);
  * `moves_once` says what every move of a run answers and does.
-/
namespace Proofing.Completion

/-! ## Moves -/

/-- Takes staged personal data into the vault, and tells nobody. -/
def transfer (user : UserId) : Step Bool := do
  let (moved, s, vault) ← Step.lift .notKept ((← Step.office).vault.relocate (← Step.session) user)
  Step.setSession s
  Step.modifyOffice fun o => { o with vault }
  return moved

/-- How staged data is taken into the vault. -/
inductive Means where
  /-- At the desk, with an event. -/
  | desk
  /-- Without one. -/
  | silent
  deriving DecidableEq

namespace Means

/-- Takes staged data into the vault. -/
def step : Means → UserId → Step Bool
  | desk => relocate
  | silent => transfer

/-- What is told of a move that has succeeded. -/
def told : Means → ProfileId → List Event
  | desk, id => [.piiRelocated id]
  | silent, _ => []

variable {d : Desk} {user : UserId}

theorem perform_error (m : Means) {e : StoreFault}
    (h : d.office.vault.relocate d.session user = .error e) :
    (m.step user).perform d = (.error (.notKept e), d) := by
  cases m with
  | desk => exact perform_relocate_error h
  | silent => simp [step, transfer, Step.perform_bind, h]

theorem perform_of_not_staged (m : Means)
    (h : d.session.profileId = none ∨ d.session.hasStaged = false) :
    (m.step user).perform d = (.ok false, d) := by
  have hmove : d.office.vault.relocate d.session user = .ok (false, d.session, d.office.vault) := by
    unfold Vault.relocate
    rcases h with h | h
    · rw [h]; split <;> rfl
    · rw [h]; rfl
  cases m with
  | desk => rw [step, perform_relocate_ok hmove]; simp
  | silent => simp [step, transfer, Step.perform_bind, Step.perform_map, hmove, Except.map]

/-- The desk once the data is in the vault. -/
def moved (m : Means) (d : Desk) (user : UserId) (id : ProfileId) (pii : Pii) : Desk where
  session := { d.session with staged := none }
  office := { d.office with
    vault := filled d.office.vault user id pii
    events := d.office.events ++ m.told id }

theorem perform_of_staged (m : Means) {id : ProfileId} {t : StagedText} {pii : Pii}
    (hid : d.session.profileId = some id) (ht : d.session.staged = some t)
    (hread : t.toPii? = some pii) :
    (m.step user).perform d =
      if d.office.vault.failWrites then (.error (.notKept Vault.injected), d)
      else (.ok true, m.moved d user id pii) := by
  have hmove := Vault.relocate_of_staged (v := d.office.vault) hid ht
    (StagedText.isBlank_of_toPii? hread) user
  split
  · rename_i failing
    rw [Vault.persist, if_pos failing] at hmove
    exact perform_error m hmove
  · rename_i works
    have hmove : d.office.vault.relocate d.session user = .ok (true,
        { d.session with staged := none }, filled d.office.vault user id pii) := by
      rw [hmove, Vault.persist, if_neg works, hread]
      rfl
    have hid' : ({ d.session with staged := none } : Session).profileId = some id := hid
    cases m with
    | desk => rw [step, perform_relocate_ok hmove]; simp [hid', moved, told]
    | silent =>
      simp [step, transfer, Step.perform_bind, Step.perform_map, hmove, Except.map, moved, told]

end Means

/-! ## Attempts -/

/-- Something that is done while data is staged. -/
inductive Attempt where
  | move (m : Means) (user : UserId)
  /-- A request ends and the next one begins. -/
  | reload (web : WebSession)
  /-- The vault stops taking data in, or starts to. -/
  | fail (on : Bool)

namespace Attempt

/-- The desk after an attempt. -/
def next (config : Config) (d : Desk) : Attempt → Desk
  | move m user => ((m.step user).perform d).2
  | reload web => { d with session := .load (d.session.store web) config }
  | fail on => { d with office := d.office.setFailing .writes on }

/-- The attempt is a move, and succeeds. -/
def succeeds (d : Desk) : Attempt → Bool
  | move m user =>
    match ((m.step user).perform d).1 with
    | .ok b => b
    | .error _ => false
  | _ => false

/-- The desk after some attempts. -/
def run (config : Config) (d : Desk) (as : List Attempt) : Desk :=
  as.foldl (next config) d

/-- Some move has succeeded. -/
def succeeded (config : Config) : Desk → List Attempt → Bool
  | _, [] => false
  | d, a :: as => a.succeeds d || succeeded config (a.next config d) as

end Attempt

/-! ## Before and after a move -/

/-- Only the switch of the vault has been thrown, and only what a session takes from the web session
    is read anew. -/
structure Still (d d' : Desk) : Prop where
  vault : d'.office.vault = { d.office.vault with failWrites := d'.office.vault.failWrites }
  session : ∃ id visitPii, d'.session = { d.session with id, visitPii }

theorem Still.refl (d : Desk) : Still d d :=
  ⟨rfl, d.session.id, d.session.visitPii, rfl⟩

theorem Still.trans {d d' d'' : Desk} (h : Still d d') (h' : Still d' d'') : Still d d'' := by
  obtain ⟨hv, _, _, hs⟩ := h
  obtain ⟨hv', i, v, hs'⟩ := h'
  exact ⟨by rw [hv', hv], i, v, by rw [hs', hs]⟩

/-- Data is staged for a profile. -/
structure Waits (config : Config) (id : ProfileId) (t : StagedText) (d : Desk) : Prop where
  under : d.session.Under config
  profileId : d.session.profileId = some id
  staged : d.session.staged = some t

/-- There is nothing to move. -/
structure Idle (config : Config) (d : Desk) : Prop where
  under : d.session.Under config
  nothing : d.session.profileId = none ∨ d.session.hasStaged = false

section
variable {config : Config} {d d' : Desk} {id : ProfileId} {t : StagedText} {pii : Pii}

theorem Still.under (h : Still d d') (under : d.session.Under config) :
    d'.session.Under config := by
  obtain ⟨-, i, v, hs⟩ := h
  rw [hs]
  exact under.update ..

theorem Still.staged (h : Still d d') : d'.session.staged = d.session.staged := by
  obtain ⟨-, i, v, hs⟩ := h
  rw [hs]

theorem Still.profileId (h : Still d d') : d'.session.profileId = d.session.profileId := by
  obtain ⟨-, i, v, hs⟩ := h
  rw [hs]
  rfl

theorem Waits.still (h : Waits config id t d) (hs : Still d d') : Waits config id t d' :=
  ⟨hs.under h.under, hs.profileId.trans h.profileId, hs.staged.trans h.staged⟩

theorem Idle.still (h : Idle config d) (hs : Still d d') : Idle config d' := by
  refine ⟨hs.under h.under, h.nothing.imp hs.profileId.trans fun hn => ?_⟩
  rw [← hn, Session.hasStaged, hs.staged, Session.hasStaged]

theorem still_reload (under : d.session.Under config) (web : WebSession) :
    Still d ((Attempt.reload web).next config d) :=
  ⟨rfl, web.id, _, Session.load_store_eq under web⟩

theorem still_fail (on : Bool) : Still d ((Attempt.fail on).next config d) :=
  ⟨rfl, d.session.id, d.session.visitPii, rfl⟩

/-- With nothing to move, no attempt changes anything. -/
theorem Idle.next (h : Idle config d) (a : Attempt) :
    a.succeeds d = false ∧ Still d (a.next config d) := by
  cases a with
  | move m user =>
    rw [Attempt.next, Attempt.succeeds, m.perform_of_not_staged h.nothing]
    exact ⟨rfl, .refl d⟩
  | reload web => exact ⟨rfl, still_reload h.under web⟩
  | fail on => exact ⟨rfl, still_fail on⟩

theorem Idle.run (h : Idle config d) (as : List Attempt) :
    Attempt.succeeded config d as = false ∧ Still d (Attempt.run config d as) := by
  induction as generalizing d with
  | nil => exact ⟨rfl, .refl d⟩
  | cons a as ih =>
    obtain ⟨hfails, hstill⟩ := h.next a
    obtain ⟨hrun, hstill'⟩ := ih (h.still hstill)
    exact ⟨by rw [Attempt.succeeded, hfails, hrun]; rfl, hstill.trans hstill'⟩

/-- Data that was moved is not staged any more. -/
theorem idle_moved (h : Waits config id t d) (m : Means) (user : UserId) :
    Idle config (m.moved d user id pii) :=
  ⟨h.under.update .., .inr rfl⟩

/-- An attempt leaves staged data where it is, or it is the move that succeeds. -/
theorem Waits.next (h : Waits config id t d) (hread : t.toPii? = some pii) (a : Attempt) :
    (a.succeeds d = false ∧ Still d (a.next config d)) ∨
      (a.succeeds d = true ∧ ∃ (m : Means) (user : UserId), a.next config d = m.moved d user id pii) := by
  cases a with
  | move m user =>
    have hmove : (m.step user).perform d = _ := m.perform_of_staged h.profileId h.staged hread
    rw [Attempt.next, Attempt.succeeds]
    cases hworks : d.office.vault.failWrites with
    | true =>
      rw [hmove, if_pos hworks]
      exact .inl ⟨rfl, .refl d⟩
    | false =>
      rw [hmove, if_neg (by rw [hworks]; decide)]
      exact .inr ⟨rfl, m, user, rfl⟩
  | reload web => exact .inl ⟨rfl, still_reload h.under web⟩
  | fail on => exact .inl ⟨rfl, still_fail on⟩

/-- In a run there is no move that succeeds, or there is one. -/
theorem Waits.run (h : Waits config id t d) (hread : t.toPii? = some pii) (as : List Attempt) :
    (Attempt.succeeded config d as = false ∧ Still d (Attempt.run config d as)) ∨
      (Attempt.succeeded config d as = true ∧ ∃ (m : Means) (user : UserId) (d₁ : Desk), Still d d₁ ∧
        Still (m.moved d₁ user id pii) (Attempt.run config d as)) := by
  induction as generalizing d with
  | nil => exact .inl ⟨rfl, .refl d⟩
  | cons a as ih =>
    rw [Attempt.succeeded]
    rcases h.next hread a with ⟨hfails, hstill⟩ | ⟨hdone, m, user, hmoved⟩
    · rw [hfails, Bool.false_or]
      rcases ih (h.still hstill) with ⟨hrun, hstill'⟩ | ⟨hrun, m, user, d₁, hbefore, hafter⟩
      · exact .inl ⟨hrun, hstill.trans hstill'⟩
      · exact .inr ⟨hrun, m, user, d₁, hstill.trans hbefore, hafter⟩
    · rw [hdone, Bool.true_or]
      refine .inr ⟨rfl, m, user, d, .refl d, ?_⟩
      rw [← hmoved]
      exact ((hmoved ▸ idle_moved h m user).run as).2

end

/-! ## Every move of a run -/

/-- What becomes of data that is staged for a profile, in a run of attempts. -/
structure MovedOnce (config : Config) (d : Desk) (id : ProfileId) (t : StagedText) (pii : Pii)
    (as : List Attempt) : Prop where
  /-- The data stays staged as long as no move has succeeded. -/
  staged : (Attempt.run config d as).session.staged =
    if Attempt.succeeded config d as then none else some t
  hasStaged : (Attempt.run config d as).session.hasStaged = !Attempt.succeeded config d as
  /-- It is written no more than once. -/
  writes : (Attempt.run config d as).office.vault.writes =
    d.office.vault.writes + if Attempt.succeeded config d as then 1 else 0
  /-- Until then, a move fails while the vault does, and changes nothing. -/
  fails : Attempt.succeeded config d as = false →
    (Attempt.run config d as).office.vault.failWrites = true → ∀ (m : Means) user,
      (m.step user).perform (Attempt.run config d as) =
        (.error (.notKept Vault.injected), Attempt.run config d as)
  /-- The first move while the vault works takes the data in. -/
  first : Attempt.succeeded config d as = false →
    (Attempt.run config d as).office.vault.failWrites = false → ∀ (m : Means) user,
      (m.step user).perform (Attempt.run config d as) =
          (.ok true, m.moved (Attempt.run config d as) user id pii) ∧
        (m.moved (Attempt.run config d as) user id pii).office.vault.durable user =
          some (id, pii)
  /-- As long as no move has succeeded, nothing has happened. -/
  still : Attempt.succeeded config d as = false → Still d (Attempt.run config d as)
  /-- Otherwise one move has taken place, with nothing before it and nothing after it. -/
  moved : Attempt.succeeded config d as = true →
    ∃ (m : Means) (user : UserId) (d₁ : Desk), Still d d₁ ∧
      Still (m.moved d₁ user id pii) (Attempt.run config d as)
  /-- Every later move finds nothing to do. -/
  later : Attempt.succeeded config d as = true → ∀ (m : Means) user,
    (m.step user).perform (Attempt.run config d as) = (.ok false, Attempt.run config d as)

theorem movedOnce_run {config : Config} {d : Desk} {id : ProfileId} {t : StagedText} {pii : Pii}
    (h : Waits config id t d) (hread : t.toPii? = some pii) (as : List Attempt) :
    MovedOnce config d id t pii as := by
  rcases h.run hread as with ⟨hnone, hstill⟩ | ⟨hdone, m, user, d₁, hbefore, hafter⟩
  · have hwaits : Waits config id t (Attempt.run config d as) := h.still hstill
    have hmove (m : Means) (user : UserId) : (m.step user).perform (Attempt.run config d as) = _ :=
      m.perform_of_staged hwaits.profileId hwaits.staged hread
    have hhas : (Attempt.run config d as).session.hasStaged = true :=
      Session.hasStaged_eq_true.2 ⟨t, hwaits.staged, StagedText.isBlank_of_toPii? hread⟩
    constructor
    case staged => rw [hnone]; exact hwaits.staged
    case hasStaged => rw [hnone]; exact hhas
    case writes => rw [hnone, hstill.vault]; rfl
    case fails => exact fun _ failing m user => (hmove m user).trans (if_pos failing)
    case first =>
      intro _ works m user
      refine ⟨(hmove m user).trans (if_neg (by rw [works]; decide)), ?_⟩
      exact if_pos rfl
    case still => exact fun _ => hstill
    case moved => exact fun e => absurd (hnone.symm.trans e) (by decide)
    case later => exact fun e => absurd (hnone.symm.trans e) (by decide)
  · have hidle : Idle config (Attempt.run config d as) :=
      (idle_moved (h.still hbefore) m user).still hafter
    obtain ⟨i, v, hsession⟩ := hafter.session
    have hstaged : (Attempt.run config d as).session.staged = none := by rw [hsession]; rfl
    constructor
    case staged => rw [hdone]; exact hstaged
    case hasStaged => rw [hdone, Session.hasStaged, hstaged]; rfl
    case writes => rw [hdone, hafter.vault, Means.moved, hbefore.vault]; rfl
    case fails => exact fun e => absurd (hdone.symm.trans e) (by decide)
    case first => exact fun e => absurd (hdone.symm.trans e) (by decide)
    case still => exact fun e => absurd (hdone.symm.trans e) (by decide)
    case moved => exact fun _ => ⟨m, user, d₁, hbefore, hafter⟩
    case later => exact fun _ m user => m.perform_of_not_staged hidle.nothing

/-- **Staged data is taken into the vault exactly once**, by the first move while the vault works,
    however often it is tried and the session is stored and loaded in between; and where nothing is
    staged, what is staged is blank, or there is no profile, no move does anything. -/
theorem moves_once (config : Config) (d : Desk) (under : d.session.Under config)
    (as : List Attempt) :
    (∀ id t pii, d.session.profileId = some id → d.session.staged = some t → t.toPii? = some pii →
        MovedOnce config d id t pii as) ∧
      (d.session.profileId = none ∨ d.session.hasStaged = false →
        Still d (Attempt.run config d as) ∧ ∀ (m : Means) user,
          (m.step user).perform (Attempt.run config d as) = (.ok false, Attempt.run config d as)) := by
  refine ⟨fun id t pii hid ht hread => movedOnce_run ⟨under, hid, ht⟩ hread as, fun hn => ?_⟩
  have hidle : Idle config d := ⟨under, hn⟩
  obtain ⟨-, hstill⟩ := hidle.run as
  exact ⟨hstill, fun m user => m.perform_of_not_staged (hidle.still hstill).nothing⟩

open Registry.Traffic (zeroUser)

/-- A session with a profile and data on its way to a vault that takes nothing in. -/
def waitingDesk : Desk where
  session := { firstDesk.session.put .profileId (some ⟨1⟩) with staged := some (.ofPii .empty) }
  office := firstDesk.office.setFailing .writes true

theorem moves_once_retried :
    let as : List Attempt := [.move .desk zeroUser, .reload ⟨⟨"web"⟩, [("cart", .null)]⟩,
      .move .silent zeroUser, .fail false, .move .desk zeroUser, .reload ⟨⟨"web"⟩, []⟩]
    waitingDesk.session.Under .light ∧ Attempt.succeeded .light waitingDesk as = true ∧
      waitingDesk.session.profileId = some ⟨1⟩ ∧
      waitingDesk.session.staged = some (.ofPii .empty) ∧
      StagedText.toPii? (.ofPii .empty) = some .empty ∧
      MovedOnce .light waitingDesk ⟨1⟩ (.ofPii .empty) .empty as := by
  intro as
  have under : waitingDesk.session.Under .light := ⟨rfl, rfl, rfl⟩
  have hread : StagedText.toPii? (.ofPii .empty) = some .empty := StagedText.toPii?_ofPii .empty
  exact ⟨under, by decide +kernel, rfl, rfl, hread,
    (moves_once .light waitingDesk under as).1 ⟨1⟩ (.ofPii .empty) .empty rfl rfl hread⟩

end Proofing.Completion
