import Mathlib.Data.Fintype.Card
import Mathlib.Logic.Function.Basic
import Proofing.Proofs.Completion.Request
/-
  Proofing — many requests for the profile of one run of a flow.

  The steps of the clients come in any order, transactions are dropped, and calls
  are made to fail and to succeed again (`Move`).

  * `left_run` and `dropped_of_run`: six steps of its own bring a client to its end,
    whatever the others do, unless it gives up (`ended_of_steps`);
  * `Inv` is what holds all the time, and `Single` that no more than one profile is
    committed; the latter needs that there are numbers for all the profiles that may
    be open at once;
  * `served_run` says what the clients get.
-/
namespace Proofing.Completion

/-- Clients with the services that they share. -/
structure Crowd (n : Nat) where
  office : Office
  clients : Fin n → Client

/-- What happens next. -/
inductive Move (n : Nat) where
  /-- The next step of a client. -/
  | step (i : Fin n)
  /-- A client gives up. -/
  | drop (i : Fin n)
  | fail (f : Failure) (on : Bool)
  | setClock (now : Timestamp)
  deriving DecidableEq

namespace Crowd
variable {n : Nat}

/-- A client has done something. -/
def put (w : Crowd n) (i : Fin n) (x : Office × Client) : Crowd n :=
  ⟨x.1, Function.update w.clients i x.2⟩

/-- What becomes of a crowd. -/
def move (w : Crowd n) : Move n → Crowd n
  | .step i => w.put i ((w.clients i).step w.office)
  | .drop i => w.put i (w.office, (w.clients i).drop)
  | .fail f on => { w with office := w.office.setFailing f on }
  | .setClock now =>
    { w with office := { w.office with registry := { w.office.registry with now := now } } }

/-- What becomes of a crowd in the end. -/
def run (w : Crowd n) (ms : List (Move n)) : Crowd n :=
  ms.foldl move w

/-- The client has committed a profile. -/
def Committed (w : Crowd n) (i : Fin n) : Prop :=
  (w.clients i).progress.committed?.isSome = true

theorem clients_put_self (w : Crowd n) (i : Fin n) (x : Office × Client) :
    (w.put i x).clients i = x.2 :=
  Function.update_self ..

theorem clients_put_of_ne (w : Crowd n) {i j : Fin n} (h : j ≠ i) (x : Office × Client) :
    (w.put i x).clients j = w.clients j :=
  Function.update_of_ne h ..

theorem put_same (w : Crowd n) (i : Fin n) : w.put i (w.office, w.clients i) = w := by
  rw [put, Function.update_eq_self]

theorem run_append (w : Crowd n) (ms ms' : List (Move n)) :
    w.run (ms ++ ms') = (w.run ms).run ms' :=
  List.foldl_append

theorem put_put (w : Crowd n) (i : Fin n) (x y : Office × Client) :
    (w.put i x).put i y = w.put i y := by
  simp only [put, Function.update_idem]

theorem forall_put {w : Crowd n} {i : Fin n} {x : Office × Client} {P : Fin n → Client → Prop}
    (hi : P i x.2) (h : ∀ j, j ≠ i → P j (w.clients j)) : ∀ j, P j ((w.put i x).clients j) := by
  intro j
  by_cases e : j = i
  · subst e; rw [clients_put_self]; exact hi
  · rw [clients_put_of_ne w e]; exact h j e

/-! ## Steps that are left -/

section
variable {w : Crowd n} {m : Move n} {ms : List (Move n)} {i : Fin n}

/-- What a move does to a client: its own step, or that it gives up, or nothing. -/
theorem clients_move (w : Crowd n) (m : Move n) (i : Fin n) :
    (m = .step i ∧ (w.move m).clients i = ((w.clients i).step w.office).2) ∨
      (m = .drop i ∧ (w.move m).clients i = (w.clients i).drop) ∨
      (m ≠ .step i ∧ (w.move m).clients i = w.clients i) := by
  cases m with
  | step j =>
    by_cases h : i = j
    · subst h
      exact .inl ⟨rfl, clients_put_self ..⟩
    · exact .inr (.inr ⟨fun e => h (Move.step.inj e).symm, clients_put_of_ne w h _⟩)
  | drop j =>
    by_cases h : i = j
    · subst h
      exact .inr (.inl ⟨rfl, clients_put_self ..⟩)
    · exact .inr (.inr ⟨nofun, clients_put_of_ne w h _⟩)
  | fail | setClock => exact .inr (.inr ⟨nofun, rfl⟩)

/-- A step of a client takes one of those that it has left, and no move gives it any. -/
theorem left_move (w : Crowd n) (m : Move n) (i : Fin n) :
    ((w.move m).clients i).progress.left ≤
      (w.clients i).progress.left - if m = .step i then 1 else 0 := by
  rcases clients_move w m i with ⟨rfl, h⟩ | ⟨rfl, h⟩ | ⟨hm, h⟩ <;> rw [h]
  · rw [if_pos rfl]
    exact Client.left_step ..
  · exact Client.left_drop _
  · rw [if_neg hm]
    exact Nat.le_refl _

theorem left_run (w : Crowd n) (ms : List (Move n)) (i : Fin n) :
    ((w.run ms).clients i).progress.left ≤ (w.clients i).progress.left - ms.count (.step i) := by
  induction ms generalizing w with
  | nil => exact Nat.le_refl _
  | cons m ms ih =>
    have first := left_move w m i
    have rest := ih (w.move m)
    have hcount : (m :: ms).count (.step i) = ms.count (.step i) + if m = .step i then 1 else 0 := by
      simp only [List.count_cons, beq_iff_eq]
    change (((w.move m).run ms).clients i).progress.left ≤ _
    omega

/-- A client that has given up has done so itself. -/
theorem dropped_of_move (h : ((w.move m).clients i).progress = .dropped) :
    (w.clients i).progress = .dropped ∨ m = .drop i := by
  rcases clients_move w m i with ⟨-, hi⟩ | ⟨hm, -⟩ | ⟨-, hi⟩
  · rw [hi] at h
    exact .inl (Client.dropped_of_step h)
  · exact .inr hm
  · rw [hi] at h
    exact .inl h

theorem dropped_of_run (h : ((w.run ms).clients i).progress = .dropped) :
    (w.clients i).progress = .dropped ∨ .drop i ∈ ms := by
  induction ms generalizing w with
  | nil => exact .inl h
  | cons m ms ih =>
    rcases ih (w := w.move m) h with hm | hm
    · rcases dropped_of_move hm with hw | rfl
      exacts [.inl hw, .inr List.mem_cons_self]
    · exact .inr (List.mem_cons_of_mem _ hm)

/-- **Six steps bring a client to its end**, whatever is done in between, unless it gives up. -/
theorem ended_of_steps (waits : (w.clients i).progress = .waiting)
    (steps : 6 ≤ ms.count (.step i)) (kept : .drop i ∉ ms) :
    ((w.run ms).clients i).progress.result?.isSome = true := by
  refine Progress.result_of_left ?_ fun hdropped => ?_
  · have hleft := left_run w ms i
    rw [waits, Progress.left] at hleft
    omega
  · rcases dropped_of_run hdropped with hw | hm
    · rw [waits] at hw
      cases hw
    · exact kept hm

/-- The steps of a client with nobody in between. -/
theorem run_replicate (w : Crowd n) (i : Fin n) (k : Nat) :
    w.run (List.replicate k (.step i)) = w.put i (Client.steps k (w.office, w.clients i)) := by
  induction k generalizing w with
  | zero => rw [Client.steps, put_same]; rfl
  | succ k ih =>
    change (w.move (.step i)).run (List.replicate k (.step i)) = _
    rw [ih, move, put_put, clients_put_self]
    rfl

/-- So they do what is done in one go. -/
theorem run_alone (waits : (w.clients i).progress = .waiting) :
    let made := (w.clients i).complete.perform ⟨(w.clients i).session, w.office⟩
    let w' := w.run (List.replicate 6 (.step i))
    (w'.clients i).progress.result? = some made.1 ∧ ⟨(w'.clients i).session, w'.office⟩ = made.2 := by
  intro made w'
  have hw' : w' = w.put i (Client.steps 6 (w.office, w.clients i)) := run_replicate w i 6
  rw [hw', clients_put_self]
  exact Client.alone w.office waits

end

/-! ## Numbers -/

/-- The clients in the order in which profiles were created for them, and that the numbers of the
    profiles are given in that order. -/
structure Numbering (start : UInt64) (w : Crowd n) (order : List (Fin n)) : Prop where
  nodup : order.Nodup
  next : w.office.registry.nextId = start + UInt64.ofNat order.length
  past : ∀ i ∈ order, (w.clients i).progress.isBefore = false
  number : ∀ i p, (w.clients i).progress.created? = some p →
    ∃ k, order[k]? = some i ∧ p.id = ⟨start + UInt64.ofNat k⟩

section
variable {start : UInt64} {w : Crowd n} {order : List (Fin n)} {key : IdempotencyKey} {i : Fin n}
  {o' : Office} {c' : Client}

/-- Different clients have profiles by different numbers. -/
theorem Numbering.inj (h : Numbering start w order) (few : n ≤ 2 ^ 64) {i j : Fin n} {p q : Profile}
    (hp : (w.clients i).progress.created? = some p) (hq : (w.clients j).progress.created? = some q)
    (e : p.id = q.id) : i = j := by
  obtain ⟨k, hk, hpid⟩ := h.number i p hp
  obtain ⟨l, hl, hqid⟩ := h.number j q hq
  have hlen : order.length ≤ n := by simpa using h.nodup.length_le_card
  have hkl : k < order.length := (List.getElem?_eq_some_iff.1 hk).1
  have hll : l < order.length := (List.getElem?_eq_some_iff.1 hl).1
  rw [hpid, hqid, ProfileId.mk.injEq, UInt64.add_right_inj] at e
  have : k = l := Registry.Traffic.ofNat_inj_of_lt (by omega) (by omega) e
  rw [this, hl] at hk
  exact (Option.some.inj hk).symm

/-- A client for whom no profile is created takes no number. -/
theorem Numbering.put (h : Numbering start w order)
    (next : o'.registry.nextId = w.office.registry.nextId)
    (before : c'.progress.isBefore = true → (w.clients i).progress.isBefore = true)
    (created : ∀ p', c'.progress.created? = some p' →
      ∃ p, (w.clients i).progress.created? = some p ∧ p.id = p'.id) :
    Numbering start (w.put i (o', c')) order where
  nodup := h.nodup
  next := next.trans h.next
  past := forall_put (P := fun j c => j ∈ order → c.progress.isBefore = false)
    (fun hi => by
      rw [← Bool.not_eq_true]
      exact fun hb => absurd (h.past i hi) (by rw [before hb]; decide))
    fun j _ => h.past j
  number := forall_put
    (P := fun j c => ∀ p, c.progress.created? = some p →
      ∃ k, order[k]? = some j ∧ p.id = ⟨start + UInt64.ofNat k⟩)
    (fun p' hp' => by
      obtain ⟨p, hp, hid⟩ := created p' hp'
      rw [← hid]; exact h.number i p hp)
    fun j _ => h.number j

theorem Numbering.effect (h : Numbering start w order)
    (e : Effect key w.office (w.clients i) o' c') :
    ∃ order', Numbering start (w.put i (o', c')) order' := by
  cases e with
  | quiet registry down before created committed refused =>
    exact ⟨order, h.put (by rw [registry]) before created⟩
  | commits after created created' old committed refused hk written =>
    obtain ⟨-, rfl⟩ := Registry.commit_ok written
    refine ⟨order, h.put rfl (fun hb => by rw [after] at hb; cases hb) fun p' hp' => ?_⟩
    rw [created'] at hp'
    cases hp'
    exact ⟨_, created, rfl⟩
  | creates before after created number old committed refused =>
    have hi : i ∉ order := fun hi => absurd (h.past i hi) (by rw [before]; decide)
    refine ⟨order ++ [i], ?_, ?_, ?_, ?_⟩
    · refine List.nodup_append.2 ⟨h.nodup, List.nodup_singleton i, fun a ha b hb e => hi ?_⟩
      rwa [← List.mem_singleton.1 hb, ← e]
    · change w.office.registry.nextId + 1 = _
      rw [h.next, List.length_append, UInt64.ofNat_add, UInt64.add_assoc]; rfl
    · refine forall_put (P := fun j c => j ∈ order ++ [i] → c.progress.isBefore = false)
        (fun _ => after) fun j hji hj => ?_
      rcases List.mem_append.1 hj with hj | hj
      exacts [h.past j hj, absurd (List.mem_singleton.1 hj) hji]
    · refine forall_put (P := fun j c => ∀ p, c.progress.created? = some p →
        ∃ k, (order ++ [i])[k]? = some j ∧ p.id = ⟨start + UInt64.ofNat k⟩) (fun p' hp' => ?_)
        fun j _ q hq => ?_
      · rw [created] at hp'
        cases hp'
        exact ⟨order.length, by simp, by rw [number, h.next]⟩
      · obtain ⟨k, hk, hid⟩ := h.number j q hq
        refine ⟨k, ?_, hid⟩
        rw [List.getElem?_append_left (List.getElem?_eq_some_iff.1 hk).1, hk]

end

/-! ## The invariant -/

/-- What holds of a crowd all the time; the faults are those that may be injected. -/
structure Inv (key : IdempotencyKey) (allowed : StoreFault → Prop) (w₀ w : Crowd n) : Prop where
  fits : ∀ i, Fits key (w₀.clients i) (w.clients i)
  numbering : ∃ order, Numbering w₀.office.registry.nextId w order
  rows : (∃ p ∈ w.office.registry.rows, p.key = key) ↔ ∃ i, w.Committed i
  refused : ∀ i e, (w.clients i).progress = .refused e → ∃ fault, e = .notCreated fault ∧
    ((fault = .duplicate key.text ∧ ∃ j, w.Committed j) ∨ allowed fault)
  injects : ∀ fault, Injects w.office fault → allowed fault

/-- No more than one profile is committed. -/
def Single (key : IdempotencyKey) (w : Crowd n) : Prop :=
  ∀ i p, (w.clients i).progress.committed? = some p →
    w.office.registry.rows.filter (·.key == key) = [p.withoutKey] ∧ ∀ j, w.Committed j → j = i

section
variable {key : IdempotencyKey} {allowed : StoreFault → Prop} {w₀ w : Crowd n} {i : Fin n}
  {o' : Office} {c' : Client}

theorem committed_put_self (w : Crowd n) (i : Fin n) (x : Office × Client) :
    (w.put i x).Committed i ↔ x.2.progress.committed?.isSome = true := by
  rw [Committed, clients_put_self]

theorem committed_put_of_ne (w : Crowd n) {i j : Fin n} (h : j ≠ i) (x : Office × Client) :
    (w.put i x).Committed j ↔ w.Committed j := by
  rw [Committed, clients_put_of_ne w h]; rfl

/-- A move that commits nothing leaves what is committed. -/
theorem committed?_put (h : c'.progress.committed? = (w.clients i).progress.committed?) (j : Fin n) :
    ((w.put i (o', c')).clients j).progress.committed? = (w.clients j).progress.committed? := by
  by_cases hj : j = i
  · subst hj; rw [clients_put_self]; exact h
  · rw [clients_put_of_ne w hj]

/-- A profile stays committed. -/
theorem committed_put (e : Effect key w.office (w.clients i) o' c') {j : Fin n}
    (h : w.Committed j) : (w.put i (o', c')).Committed j := by
  by_cases hj : j = i
  · subst hj
    rw [committed_put_self]
    cases e with
    | quiet _ _ _ _ committed _ => rw [committed]; exact h
    | creates _ _ _ _ old _ _ => rw [Committed, old] at h; cases h
    | commits _ _ _ old _ _ _ _ => rw [Committed, old] at h; cases h
  · rwa [committed_put_of_ne w hj]

theorem Inv.effect (h : Inv key allowed w₀ w) (hf : Fits key (w₀.clients i) c')
    (e : Effect key w.office (w.clients i) o' c') : Inv key allowed w₀ (w.put i (o', c')) where
  fits := forall_put hf fun j _ => h.fits j
  numbering := by
    obtain ⟨order, ho⟩ := h.numbering
    exact ho.effect e
  rows := by
    have same (hi : c'.progress.committed? = (w.clients i).progress.committed?) (j : Fin n) :
        (w.put i (o', c')).Committed j ↔ w.Committed j := by
      rw [Committed, Committed, committed?_put hi]
    cases e with
    | quiet registry _ _ _ committed _ =>
      simp only [same committed]
      change (∃ p ∈ o'.registry.rows, _) ↔ _
      rw [registry]; exact h.rows
    | creates _ _ _ _ old committed _ =>
      simp only [same (committed.trans old.symm)]
      exact h.rows
    | commits _ _ _ _ committed _ hk written =>
      obtain ⟨-, rfl⟩ := Registry.commit_ok written
      refine iff_of_true ⟨_, Registry.mem_place_self _ _, hk⟩ ⟨i, ?_⟩
      rw [committed_put_self, committed]; rfl
  refused := by
    have older {fault : StoreFault}
        (hold : (fault = .duplicate key.text ∧ ∃ j, w.Committed j) ∨ allowed fault) :
        (fault = .duplicate key.text ∧ ∃ j, (w.put i (o', c')).Committed j) ∨ allowed fault :=
      hold.imp (fun ⟨hd, j, hj⟩ => ⟨hd, j, committed_put e hj⟩) id
    refine forall_put (P := fun _ c => ∀ e, c.progress = .refused e → ∃ fault, e = .notCreated fault ∧
      ((fault = .duplicate key.text ∧ ∃ j, (w.put i (o', c')).Committed j) ∨ allowed fault))
      (fun x hx => ?_) fun j _ x hx => ?_
    · cases e with
      | quiet _ _ _ _ _ refused =>
        rcases refused x hx with hx | ⟨fault, rfl, hd | hin⟩
        · obtain ⟨fault, rfl, hold⟩ := h.refused i x hx
          exact ⟨fault, rfl, older hold⟩
        · exact ⟨fault, rfl, older (Or.inl ⟨hd.1, h.rows.1 hd.2⟩)⟩
        · exact ⟨fault, rfl, Or.inr (h.injects fault hin)⟩
      | creates _ _ _ _ _ _ refused => exact absurd hx (refused x)
      | commits _ _ _ _ _ refused => exact absurd hx (refused x)
    · obtain ⟨fault, rfl, hold⟩ := h.refused j x hx
      exact ⟨fault, rfl, older hold⟩
  injects fault hin := h.injects fault (e.injects hin)

theorem created_of_committed {x : Progress} {p : Profile} (h : x.committed? = some p) :
    x.created? = some p := by
  cases x <;> cases h <;> rfl

/-- A profile that is written has neither the number nor the key of one that another client has
    committed. -/
theorem Numbering.apart {start : UInt64} {order : List (Fin n)} (h : Numbering start w order)
    (few : n ≤ 2 ^ 64) {p : Profile} {r : Registry}
    (created : (w.clients i).progress.created? = some p)
    (written : w.office.registry.commit (Transaction.empty.stage p) = .ok r) {j : Fin n} (hj : j ≠ i)
    {q : Profile} (hq : (w.clients j).progress.committed? = some q)
    (hrow : q.withoutKey ∈ w.office.registry.rows) : q.id ≠ p.id ∧ q.key ≠ p.key := by
  obtain ⟨hclash, -⟩ := Registry.commit_ok written
  have hid : q.id ≠ p.id := fun e => hj (h.inj few (created_of_committed hq) created e)
  refine ⟨hid, hclash p.withoutKey ?_ q.withoutKey hrow hid⟩
  simp [Transaction.stage, Transaction.empty, Transaction.replace]

/-- **A second profile is not committed**: its key is looked for among the rows. -/
theorem Single.effect (hs : Single key w) (h : Inv key allowed w₀ w) (few : n ≤ 2 ^ 64)
    (e : Effect key w.office (w.clients i) o' c') : Single key (w.put i (o', c')) := by
  -- rows and commits are as before
  have same (hrows : o'.registry.rows = w.office.registry.rows)
      (hi : c'.progress.committed? = (w.clients i).progress.committed?) :
      Single key (w.put i (o', c')) := by
    intro j p hp
    rw [committed?_put hi] at hp
    obtain ⟨hrow, hone⟩ := hs j p hp
    refine ⟨by rw [← hrow, ← hrows]; rfl, fun l hl => hone l ?_⟩
    rwa [Committed, committed?_put hi] at hl
  cases e with
  | quiet registry _ _ _ committed _ => exact same (by rw [registry]) committed
  | creates _ _ _ _ old committed _ => exact same rfl (committed.trans old.symm)
  | commits after created created' old committed refused hk written =>
    rename_i p r
    have none_yet : ∀ j, ¬ w.Committed j := by
      intro j hj
      obtain ⟨q, hq⟩ := Option.isSome_iff_exists.1 hj
      obtain ⟨hrow, -⟩ := hs j q hq
      have hmem : q.withoutKey ∈ w.office.registry.rows ∧ q.withoutKey.key = key := by
        have : q.withoutKey ∈ w.office.registry.rows.filter (·.key == key) := by simp [hrow]
        simpa using this
      have hji : j ≠ i := by
        rintro rfl
        rw [old] at hq; cases hq
      obtain ⟨order, ho⟩ := h.numbering
      exact (ho.apart few created written hji hq hmem.1).2 (hmem.2.trans hk.symm)
    have free : ∀ q ∈ w.office.registry.rows, q.key ≠ p.withoutKey.key := by
      intro q hq e
      obtain ⟨j, hj⟩ := h.rows.1 ⟨q, hq, e.trans hk⟩
      exact none_yet j hj
    have only (x : Office × Client) (j : Fin n) (hj : (w.put i x).Committed j) : j = i := by
      by_contra hji
      exact none_yet j ((committed_put_of_ne w hji _).1 hj)
    intro j q hq
    obtain rfl : j = i := only _ j (Option.isSome_iff_exists.2 ⟨q, hq⟩)
    rw [clients_put_self, committed] at hq
    cases hq
    obtain ⟨-, rfl⟩ := Registry.commit_ok written
    refine ⟨?_, only _⟩
    have := Registry.filter_place free
    rwa [show p.withoutKey.key = key from hk] at this

/-! ## Moves and runs -/

/-- What comes from outside leaves the clients and the rows alone. -/
theorem Inv.office (h : Inv key allowed w₀ w) {o : Office}
    (rows : o.registry.rows = w.office.registry.rows)
    (next : o.registry.nextId = w.office.registry.nextId)
    (injects : ∀ fault, Injects o fault → allowed fault) :
    Inv key allowed w₀ { w with office := o } where
  fits := h.fits
  numbering := by
    obtain ⟨order, ho⟩ := h.numbering
    exact ⟨order, ho.nodup, next.trans ho.next, ho.past, ho.number⟩
  rows := by
    change (∃ p ∈ o.registry.rows, _) ↔ _
    rw [rows]; exact h.rows
  refused := h.refused
  injects := injects

theorem rows_setFailing (o : Office) (f : Failure) (on : Bool) :
    (o.setFailing f on).registry.rows = o.registry.rows ∧
      (o.setFailing f on).registry.nextId = o.registry.nextId := by
  cases f <;> exact ⟨rfl, rfl⟩

/-- A fault is injected by a failure that was on already, or by the one that is switched on. -/
theorem injects_setFailing {o : Office} {f : Failure} {on : Bool} {fault : StoreFault}
    (h : Injects (o.setFailing f on) fault) :
    Injects o fault ∨ (on = true ∧ injected? f = some fault) := by
  obtain ⟨g, hg, hon⟩ := h
  rcases isOn_of_setFailing hon with hon | ⟨rfl, rfl⟩
  exacts [.inl ⟨g, hg, hon⟩, .inr ⟨rfl, hg⟩]

theorem injects_setClock {o : Office} {now : Timestamp} {fault : StoreFault}
    (h : Injects { o with registry := { o.registry with now := now } } fault) : Injects o fault := by
  obtain ⟨g, hg, hon⟩ := h
  exact ⟨g, hg, by cases g <;> exact hon⟩

end

section
variable {allowed : StoreFault → Prop} {w₀ w : Crowd n} {session : SessionId} {flow : Option Uuid}
  {user : UserId}

/-- What a move brings about: the effect of a client's step, or a change from outside. -/
theorem Inv.move (h : Inv (.derive session flow user) allowed w₀ w)
    (hs : n ≤ 2 ^ 64 → Single (.derive session flow user) w)
    (ready : ∀ i, Ready session flow user (w₀.clients i)) (m : Move n)
    (hm : ∀ f fault, m = .fail f true → injected? f = some fault → allowed fault) :
    Inv (.derive session flow user) allowed w₀ (w.move m) ∧
      (n ≤ 2 ^ 64 → Single (.derive session flow user) (w.move m)) := by
  cases m with
  | step i =>
    obtain ⟨hf, he⟩ := (h.fits i).step (ready i) rfl w.office
    exact ⟨h.effect hf he, fun few => (hs few).effect h few he⟩
  | drop i =>
    obtain ⟨hf, he⟩ := (h.fits i).drop w.office
    exact ⟨h.effect hf he, fun few => (hs few).effect h few he⟩
  | fail f on =>
    obtain ⟨hrows, hnext⟩ := rows_setFailing w.office f on
    refine ⟨h.office hrows hnext fun fault hin => ?_, fun few i p hp => ?_⟩
    · rcases injects_setFailing hin with hin | ⟨rfl, hf⟩
      exacts [h.injects fault hin, hm f fault rfl hf]
    · change (w.office.setFailing f on).registry.rows.filter _ = _ ∧ _
      rw [hrows]
      exact hs few i p hp
  | setClock now =>
    exact ⟨h.office rfl rfl fun fault hin => h.injects fault (injects_setClock hin),
      fun few => hs few⟩

theorem Inv.run (h : Inv (.derive session flow user) allowed w₀ w)
    (hs : n ≤ 2 ^ 64 → Single (.derive session flow user) w)
    (ready : ∀ i, Ready session flow user (w₀.clients i)) {ms : List (Move n)}
    (hm : ∀ f fault, .fail f true ∈ ms → injected? f = some fault → allowed fault) :
    Inv (.derive session flow user) allowed w₀ (w.run ms) ∧
      (n ≤ 2 ^ 64 → Single (.derive session flow user) (w.run ms)) := by
  induction ms generalizing w with
  | nil => exact ⟨h, hs⟩
  | cons m ms ih =>
    obtain ⟨h', hs'⟩ := h.move hs ready m fun f fault e => hm f fault (e ▸ List.mem_cons_self)
    exact ih h' hs' fun f fault hf => hm f fault (List.mem_cons_of_mem _ hf)

/-- Clients that have done nothing yet, and a registry without a profile by their key. -/
theorem inv_ready (ready : ∀ i, Ready session flow user (w₀.clients i))
    (free : ∀ p ∈ w₀.office.registry.rows, p.key ≠ .derive session flow user)
    (hin : ∀ fault, Injects w₀.office fault → allowed fault) :
    Inv (.derive session flow user) allowed w₀ w₀ where
  fits i := .of_ready (ready i)
  numbering := by
    refine ⟨[], List.nodup_nil, by simp, by simp, fun i p hp => ?_⟩
    rw [(ready i).waiting] at hp; cases hp
  rows := by
    refine iff_of_false (fun ⟨p, hp, e⟩ => free p hp e) fun ⟨i, hi⟩ => ?_
    rw [Committed, (ready i).waiting] at hi; cases hi
  refused i e he := by rw [(ready i).waiting] at he; cases he
  injects := hin

theorem single_ready (ready : ∀ i, Ready session flow user (w₀.clients i)) :
    Single (.derive session flow user) w₀ := by
  intro i p hp
  rw [(ready i).waiting] at hp; cases hp

end

/-- A client that comes to its end without a profile was refused one. -/
theorem Inv.fault_of_result {key : IdempotencyKey} {allowed : StoreFault → Prop} {w₀ w : Crowd n}
    {i : Fin n} {result : Except FlowError Outcome} (h : Inv key allowed w₀ w)
    (hr : (w.clients i).progress.result? = some result) (hi : ¬ w.Committed i) :
    ∃ fault, result = .error (.notCreated fault) ∧
      ((fault = .duplicate key.text ∧ ∃ j, w.Committed j) ∨ allowed fault) := by
  obtain ⟨e, he, rfl⟩ := Progress.refused_of_result hr (Option.not_isSome_iff_eq_none.1 hi)
  obtain ⟨fault, rfl, hwhy⟩ := h.refused i e he
  exact ⟨fault, rfl, hwhy⟩

/-! ## What the clients get -/

/-- A failure that was on at first, or was switched on by a move, brings the fault. -/
def Injected (w₀ : Crowd n) (ms : List (Move n)) (fault : StoreFault) : Prop :=
  ∃ f, injected? f = some fault ∧ (IsOn w₀.office f ∨ .fail f true ∈ ms)

theorem not_injected {w₀ : Crowd n} {ms : List (Move n)} (quiet : ∀ f, ¬ IsOn w₀.office f)
    (kept : ∀ f, .fail f true ∉ ms) (fault : StoreFault) : ¬ Injected w₀ ms fault := by
  rintro ⟨f, -, hon | hm⟩
  exacts [quiet f hon, kept f hm]

/-- What has become of requests for profiles by one key. -/
structure Served (key : IdempotencyKey) (w₀ : Crowd n) (ms : List (Move n)) (w : Crowd n) : Prop where
  /-- At most one request commits a profile, as long as there are numbers for all of them. -/
  once : n ≤ 2 ^ 64 → ∀ i j, w.Committed i → w.Committed j → i = j
  /-- The profile that is committed is the only one by the key. -/
  row : n ≤ 2 ^ 64 → ∀ i p, (w.clients i).progress.committed? = some p →
    w.office.registry.rows.filter (·.key == key) = [p.withoutKey]
  /-- There is no profile by the key that was not committed by one of the requests. -/
  rowless : (∀ i, ¬ w.Committed i) → ∀ p ∈ w.office.registry.rows, p.key ≠ key
  /-- Everyone else is told that no profile was created, for the key or for a fault from outside. -/
  refused : ∀ i result, (w.clients i).progress.result? = some result → ¬ w.Committed i →
    ∃ fault, result = .error (.notCreated fault) ∧
      (fault = .duplicate key.text ∨ Injected w₀ ms fault)
  /-- A session changes by a commit alone. -/
  session : ∀ i, ¬ w.Committed i →
    (w.clients i).session = (w₀.clients i).session ∧ (w.clients i).session.profileId = none
  /-- The session of a request that has committed records the profile in the end. -/
  recorded : ∀ i p result, (w.clients i).progress = .settled p result →
    (w.clients i).session.profileId = some p.id
  /-- If nothing is injected, one request that comes to its end is enough for a profile. -/
  served : (∀ fault, ¬ Injected w₀ ms fault) →
    (∃ i, (w.clients i).progress.result?.isSome = true) → ∃ i, w.Committed i
  /-- A request comes to its end by six steps of its own, unless it is given up. -/
  ended : ∀ i, 6 ≤ ms.count (.step i) → .drop i ∉ ms → (w.clients i).progress.result?.isSome = true
  /-- If nobody comes in between, these steps are the request made in one go. -/
  alone : ∀ i before, ms = before ++ List.replicate 6 (.step i) →
    ((w₀.run before).clients i).progress = .waiting →
      let c := (w₀.run before).clients i
      let made := c.complete.perform ⟨c.session, (w₀.run before).office⟩
      (w.clients i).progress.result? = some made.1 ∧ ⟨(w.clients i).session, w.office⟩ = made.2
  /-- If nothing is injected, exactly one request has committed a profile once any of them has taken
      its steps. -/
  one : n ≤ 2 ^ 64 → (∀ fault, ¬ Injected w₀ ms fault) →
    (∃ i, 6 ≤ ms.count (.step i) ∧ .drop i ∉ ms) → ∃! i, w.Committed i

/-- **One profile for each run of a flow**, however many requests are made for it at once and in
    whatever order their steps come. -/
theorem served_run {n : Nat} (w₀ : Crowd n) (session : SessionId) (flow : Option Uuid) (user : UserId)
    (ready : ∀ i, Ready session flow user (w₀.clients i))
    (free : ∀ p ∈ w₀.office.registry.rows, p.key ≠ .derive session flow user)
    (ms : List (Move n)) : Served (.derive session flow user) w₀ ms (w₀.run ms) := by
  have start : Inv (.derive session flow user) (Injected w₀ ms) w₀ w₀ :=
    inv_ready ready free fun fault ⟨f, hf, hon⟩ => ⟨f, hf, Or.inl hon⟩
  obtain ⟨hinv, hsingle⟩ := start.run (fun _ => single_ready ready) ready
    fun f fault hm hf => ⟨f, hf, Or.inr hm⟩
  have ended (i : Fin n) (steps : 6 ≤ ms.count (.step i)) (kept : .drop i ∉ ms) :=
    ended_of_steps (ready i).waiting steps kept
  have once (few : n ≤ 2 ^ 64) (i j : Fin n) (hi : (w₀.run ms).Committed i)
      (hj : (w₀.run ms).Committed j) : i = j := by
    obtain ⟨p, hp⟩ := Option.isSome_iff_exists.1 hj
    exact (hsingle few j p hp).2 i hi
  have served (hnone : ∀ fault, ¬ Injected w₀ ms fault)
      (h : ∃ i, ((w₀.run ms).clients i).progress.result?.isSome = true) :
      ∃ i, (w₀.run ms).Committed i := by
    obtain ⟨i, hi⟩ := h
    obtain ⟨result, hr⟩ := Option.isSome_iff_exists.1 hi
    by_cases hc : (w₀.run ms).Committed i
    · exact ⟨i, hc⟩
    · obtain ⟨fault, -, ⟨-, hj⟩ | hin⟩ := hinv.fault_of_result hr hc
      exacts [hj, absurd hin (hnone fault)]
  constructor
  case once => exact once
  case row => exact fun few i p hp => (hsingle few i p hp).1
  case rowless =>
    intro hnone p hp hk
    obtain ⟨i, hi⟩ := hinv.rows.1 ⟨p, hp, hk⟩
    exact hnone i hi
  case refused =>
    intro i result hr hi
    obtain ⟨fault, rfl, hwhy⟩ := hinv.fault_of_result hr hi
    exact ⟨fault, rfl, hwhy.imp_left And.left⟩
  case session =>
    intro i hi
    have same := (hinv.fits i).session_eq (Option.not_isSome_iff_eq_none.1 hi)
    exact ⟨same, same ▸ (ready i).profileId⟩
  case recorded => exact fun i p result hp => (hinv.fits i).recorded hp
  case served => exact served
  case ended => exact ended
  case alone =>
    rintro i before rfl hw
    rw [run_append]
    exact run_alone hw
  case one =>
    rintro few hnone ⟨i, steps, kept⟩
    obtain ⟨j, hj⟩ := served hnone ⟨i, ended i steps kept⟩
    exact ⟨j, hj, fun k hk => once few k j hk hj⟩

open Registry.Traffic (zeroUser)

/-- Two clients at services that have done nothing yet. -/
def pair : Crowd 2 where
  office := firstDesk.office
  clients _ :=
    ⟨⟨.light, ⟨"secret"⟩, zeroUser, none, zeroDraw⟩, firstDesk.session, .waiting⟩

/-- Both have created a profile before one of them commits. -/
theorem served_run_pair :
    let key := IdempotencyKey.derive ⟨"web"⟩ none zeroUser
    let ms : List (Move 2) := [.step 0, .step 1, .step 1, .step 0, .setClock ⟨9⟩, .step 0, .step 1,
      .step 1, .step 0, .step 1, .step 0, .step 0, .step 1]
    (∀ i, Ready ⟨"web"⟩ none zeroUser (pair.clients i)) ∧
      (∀ p ∈ pair.office.registry.rows, p.key ≠ key) ∧ Served key pair ms (pair.run ms) ∧
      ∃ i p, ((pair.run ms).clients i).progress.committed? = some p ∧
        (pair.run ms).office.registry.rows.filter (·.key == key) = [p.withoutKey] ∧
        ∀ j, j ≠ i → ((pair.run ms).clients j).progress.result? =
            some (.error (.notCreated (.duplicate key.text))) ∧
          ((pair.run ms).clients j).session.profileId = none := by
  intro key ms
  have ready (i : Fin 2) : Ready ⟨"web"⟩ none zeroUser (pair.clients i) :=
    ⟨rfl, rfl, rfl, rfl, rfl, rfl, rfl⟩
  have free : ∀ p ∈ pair.office.registry.rows, p.key ≠ key := fun _ hp => by cases hp
  have served : Served key pair ms (pair.run ms) := served_run pair _ _ _ ready free ms
  have quiet : ∀ fault, ¬ Injected pair ms fault :=
    not_injected not_isOn_firstDesk fun f hf => by simp [ms] at hf
  have steps : ∀ i, 6 ≤ ms.count (.step i) ∧ .drop i ∉ ms := by decide
  obtain ⟨i, hi, only⟩ := served.one (by decide) quiet ⟨0, steps 0⟩
  obtain ⟨p, hp⟩ := Option.isSome_iff_exists.1 hi
  refine ⟨ready, free, served, i, p, hp, served.row (by decide) i p hp, fun j hji => ?_⟩
  have hj : ¬ (pair.run ms).Committed j := fun hj => hji (only j hj)
  obtain ⟨result, hr⟩ := Option.isSome_iff_exists.1 (served.ended j (steps j).1 (steps j).2)
  obtain ⟨fault, rfl, rfl | hin⟩ := served.refused j result hr hj
  exacts [⟨hr, (served.session j hj).2⟩, absurd hin (quiet fault)]

end Crowd

end Proofing.Completion
