import Mathlib.Algebra.Group.Nat.Defs
import Proofing.Proofs.Registry.Rows
/-
  Proofing — a registry in use.

  Any number of callers work with one registry: they start transactions, create
  and activate profiles in them, look profiles up, and commit or drop what they
  have collected, in any order (`Act`, `Traffic.step`).  A profile is activated
  by a caller who has it from the same transaction or from a look-up
  (`Traffic.Permits`).

  * `Traffic.Inv` is what holds whatever the callers do, and `Inv.step` that every
    act keeps it;
  * `Grows` relates the rows before and after: no profile is lost, and only the
    activation of a profile changes it.
-/
namespace Proofing

/-- What never changes about a profile: all but its personal key and its activation. -/
def Profile.lasting (p : Profile) : Profile :=
  { p with personalKey := none, active := false, activatedAt := none }

/-- The state in which profiles are kept: without the personal key, dated when active, and active
    only if nothing holds them back. -/
structure Profile.Sound (p : Profile) : Prop where
  keyless : p.personalKey = none
  dated : p.active = true ↔ p.activatedAt.isSome = true
  free : p.active = true → p.holds = []

namespace Profile

theorem lasting_withoutKey (p : Profile) : p.withoutKey.lasting = p.lasting := rfl

theorem id_of_lasting {p q : Profile} (h : p.lasting = q.lasting) : p.id = q.id :=
  congrArg (·.id) h

theorem key_of_lasting {p q : Profile} (h : p.lasting = q.lasting) : p.key = q.key :=
  congrArg (·.key) h

theorem sound_ofDraft (id : ProfileId) (d : Draft) (now : Timestamp) :
    (ofDraft id d now).withoutKey.Sound :=
  ⟨rfl, by simp [ofDraft, withoutKey], by simp [ofDraft, withoutKey]⟩

end Profile

namespace Registry

/-- No row is lost, and a row changes by its activation alone. -/
def Grows (rows rows' : List Profile) : Prop :=
  ∀ p ∈ rows, ∃ q ∈ rows', q.lasting = p.lasting ∧ (p.active = true → q.active = true)

theorem Grows.refl (rows : List Profile) : Grows rows rows :=
  fun p hp => ⟨p, hp, rfl, id⟩

theorem Grows.trans {a b c : List Profile} (h : Grows a b) (h' : Grows b c) : Grows a c := by
  intro p hp
  obtain ⟨q, hq, e, ha⟩ := h p hp
  obtain ⟨r, hr, e', ha'⟩ := h' q hq
  exact ⟨r, hr, e'.trans e, fun hact => ha' (ha hact)⟩

/-- What activating a profile gives: nothing new if it is held back, and else the profile activated
    and staged. -/
theorem activate_eq (r : Registry) (t : Transaction) (p : Profile) :
    (p.holds ≠ [] ∧ ∃ h, r.activate t p = (.blocked h, p, t)) ∨
      (p.holds = [] ∧ r.activate t p =
        (.activated, { p with active := true, activatedAt := some r.now },
          t.stage { p with active := true, activatedAt := some r.now })) := by
  unfold activate
  cases h : p.hold? with
  | none => exact Or.inr ⟨Profile.hold?_eq_none.1 h, rfl⟩
  | some x =>
    refine Or.inl ⟨fun e => ?_, x, rfl⟩
    rw [Profile.hold?_eq_none.2 e] at h; cases h

/-! ## Callers -/

/-- Something that a caller does.  Callers tell their transactions apart by labels. -/
inductive Act where
  | start (t : Nat)
  | create (t : Nat) (d : Draft)
  | activate (t : Nat) (p : Profile)
  | find (id : ProfileId)
  | commit (t : Nat)
  | drop (t : Nat)
  | failCreates (on : Bool)
  | failCommits (on : Bool)
  | setClock (now : Timestamp)

/-- An open transaction, and the profiles that its callers have from it. -/
structure Opened where
  transaction : Transaction
  made : List Profile

/-- A registry in use. -/
structure Traffic where
  registry : Registry
  /-- The open transactions by their labels. -/
  opened : Nat → Option Opened
  /-- The profiles that callers have from looking them up. -/
  found : List Profile
  /-- The numbers of all the profiles created so far, the last one first. -/
  issued : List ProfileId

namespace Traffic

/-- A new registry that nobody has used. -/
def fresh (now : Timestamp) : Traffic :=
  ⟨.empty now, fun _ => none, [], []⟩

/-- Puts a transaction, or none, under a label. -/
def setOpened (w : Traffic) (t : Nat) (o : Option Opened) : Traffic :=
  { w with opened := Function.update w.opened t o }

/-- What an act does.  A transaction ends with its commit, whether or not the commit succeeds, and
    a label that is used again drops the transaction that was under it. -/
def step (w : Traffic) : Act → Traffic
  | .start t => w.setOpened t (some ⟨.empty, []⟩)
  | .create t d =>
    match w.opened t with
    | none => w
    | some o =>
      match w.registry.create o.transaction d with
      | .error _ => w
      | .ok (p, registry, transaction) =>
        { w.setOpened t (some ⟨transaction, p :: o.made⟩) with
          registry := registry, issued := p.id :: w.issued }
  | .activate t p =>
    match w.opened t with
    | none => w
    | some o =>
      let (_, q, transaction) := w.registry.activate o.transaction p
      { w.setOpened t (some ⟨transaction, if p ∈ o.made then q :: o.made else o.made⟩) with
        found := if p ∈ w.found then q :: w.found else w.found }
  | .find id => { w with found := (w.registry.find? id).toList ++ w.found }
  | .commit t =>
    match w.opened t with
    | none => w
    | some o =>
      match w.registry.commit o.transaction with
      | .error _ => w.setOpened t none
      | .ok registry => { w.setOpened t none with registry := registry }
  | .drop t => w.setOpened t none
  | .failCreates on => { w with registry := { w.registry with failCreates := on } }
  | .failCommits on => { w with registry := { w.registry with failCommits := on } }
  | .setClock now => { w with registry := { w.registry with now := now } }

section
variable {w : Traffic} {t : Nat} {o : Opened}

theorem step_create_error {d : Draft} {e : StoreFault} (ho : w.opened t = some o)
    (h : w.registry.create o.transaction d = .error e) : w.step (.create t d) = w := by
  simp only [step, ho, h]

theorem step_create_ok {d : Draft} {p : Profile} {r : Registry} {x : Transaction}
    (ho : w.opened t = some o) (h : w.registry.create o.transaction d = .ok (p, r, x)) :
    w.step (.create t d) =
      { w.setOpened t (some ⟨x, p :: o.made⟩) with registry := r, issued := p.id :: w.issued } := by
  simp only [step, ho, h]

theorem step_activate {p : Profile} (ho : w.opened t = some o) :
    w.step (.activate t p) =
      { w.setOpened t (some ⟨(w.registry.activate o.transaction p).2.2,
          if p ∈ o.made then (w.registry.activate o.transaction p).2.1 :: o.made else o.made⟩) with
        found :=
          if p ∈ w.found then (w.registry.activate o.transaction p).2.1 :: w.found
          else w.found } := by
  simp only [step, ho]

theorem step_commit_error {e : StoreFault} (ho : w.opened t = some o)
    (h : w.registry.commit o.transaction = .error e) :
    w.step (.commit t) = w.setOpened t none := by
  simp only [step, ho, h]

theorem step_commit_ok {r : Registry} (ho : w.opened t = some o)
    (h : w.registry.commit o.transaction = .ok r) :
    w.step (.commit t) = { w.setOpened t none with registry := r } := by
  simp only [step, ho, h]

end

/-- A profile is activated by a caller who has it from the transaction or from a look-up. -/
def Permits (w : Traffic) : Act → Prop
  | .activate t p => (∃ o, w.opened t = some o ∧ p ∈ o.made) ∨ p ∈ w.found
  | _ => True

/-! ## The invariant -/

/-- What holds of an open transaction beside the rows of the registry: each of its rows is of a
    profile created in it, or an activated one of the registry. -/
structure OpenedInv (rows : List Profile) (issued : List ProfileId) (o : Opened) : Prop where
  distinct : DistinctIds o.transaction.pending
  sound : ∀ p ∈ o.transaction.pending, p.Sound
  origin : ∀ p ∈ o.transaction.pending,
    (∃ q ∈ o.made, q.lasting = p.lasting) ∨
      (p.active = true ∧ ∃ q ∈ rows, q.lasting = p.lasting)
  staged : ∀ p ∈ o.made, ∃ q ∈ o.transaction.pending, q.lasting = p.lasting
  unwritten : ∀ p ∈ o.made, ∀ q ∈ rows, q.id ≠ p.id
  numbered : ∀ p ∈ o.made, p.id ∈ issued
  keys : ∀ p ∈ o.made, ∀ q ∈ o.made, p.key = q.key → p.id = q.id

/-- Different transactions have made different profiles. -/
def Apart (opened : Nat → Option Opened) : Prop :=
  ∀ t t' o o', opened t = some o → opened t' = some o' → t ≠ t' →
    ∀ p ∈ o.made, ∀ q ∈ o'.made, p.id ≠ q.id

/-- What holds of a registry in use, whatever its callers do. -/
structure Inv (w : Traffic) : Prop where
  ordered : Ordered w.registry.rows
  sound : ∀ p ∈ w.registry.rows, p.Sound
  keys : ∀ p ∈ w.registry.rows, ∀ q ∈ w.registry.rows, p.key = q.key → p.id = q.id
  next : w.registry.nextId = UInt64.ofNat (w.issued.length + 1)
  issued : w.issued =
    ((List.range w.issued.length).map fun k => ⟨UInt64.ofNat (k + 1)⟩).reverse
  numbered : ∀ p ∈ w.registry.rows, p.id ∈ w.issued
  found : ∀ p ∈ w.found, ∃ q ∈ w.registry.rows, q.lasting = p.lasting
  opened : ∀ t o, w.opened t = some o → OpenedInv w.registry.rows w.issued o
  apart : Apart w.opened

theorem inv_fresh (now : Timestamp) : Inv (fresh now) := by
  constructor <;> simp [fresh, Registry.empty, Ordered, Apart]

theorem ofNat_inj_of_lt {a b : Nat} (ha : a < 2 ^ 64) (hb : b < 2 ^ 64)
    (h : UInt64.ofNat a = UInt64.ofNat b) : a = b := by
  have := congrArg UInt64.toNat h
  rwa [UInt64.toNat_ofNat_of_lt' ha, UInt64.toNat_ofNat_of_lt' hb] at this

/-- As long as fewer than 2^64 profiles were created, all their numbers differ. -/
theorem Inv.nodup_issued {w : Traffic} (h : Inv w) (few : w.issued.length < 2 ^ 64) :
    w.issued.Nodup := by
  rw [h.issued, List.nodup_reverse]
  refine List.Nodup.map_on (fun a ha b hb e => ?_) List.nodup_range
  rw [List.mem_range] at ha hb
  exact Nat.succ.inj (ofNat_inj_of_lt (by omega) (by omega) (ProfileId.mk.inj e))

/-- The next number is a new one, though it may be the zero that follows the last number. -/
theorem Inv.next_not_mem {w : Traffic} (h : Inv w) (few : w.issued.length < 2 ^ 64) :
    (⟨w.registry.nextId⟩ : ProfileId) ∉ w.issued := by
  rw [h.issued, h.next]
  simp only [List.mem_reverse, List.mem_map, List.mem_range, not_exists, not_and]
  intro k hk e
  have := congrArg UInt64.toNat (ProfileId.mk.inj e)
  rw [UInt64.toNat_ofNat', UInt64.toNat_ofNat'] at this
  omega

namespace OpenedInv
variable {rows : List Profile} {issued : List ProfileId} {o : Opened}

theorem empty : OpenedInv rows issued ⟨.empty, []⟩ := by
  constructor <;> simp [Transaction.empty, DistinctIds]

/-- The registry may grow by profiles of others. -/
theorem mono (h : OpenedInv rows issued o) {rows' : List Profile} {issued' : List ProfileId}
    (hrows : Grows rows rows') (hnew : ∀ p ∈ o.made, ∀ q ∈ rows', q.id ≠ p.id)
    (hissued : ∀ id ∈ issued, id ∈ issued') : OpenedInv rows' issued' o where
  distinct := h.distinct
  sound := h.sound
  origin p hp := by
    rcases h.origin p hp with hm | ⟨ha, q, hq, e⟩
    · exact Or.inl hm
    · obtain ⟨q', hq', e', -⟩ := hrows q hq
      exact Or.inr ⟨ha, q', hq', e'.trans e⟩
  staged := h.staged
  unwritten := hnew
  numbered p hp := hissued _ (h.numbered p hp)
  keys := h.keys

/-- Versions of one profile differ by its activation alone. -/
theorem lasting_eq (h : OpenedInv rows issued o) {p q : Profile} (hp : p ∈ o.made) (hq : q ∈ o.made)
    (e : p.id = q.id) : p.lasting = q.lasting := by
  obtain ⟨p', hp', ep⟩ := h.staged p hp
  obtain ⟨q', hq', eq⟩ := h.staged q hq
  have : p' = q' := h.distinct.eq_of_id hp' hq'
    ((Profile.id_of_lasting ep).trans (e.trans (Profile.id_of_lasting eq).symm))
  rw [← ep, this, eq]

/-- Staging another version of a profile that is of the transaction or of the registry. -/
theorem stage (h : OpenedInv rows issued o) {p : Profile} (hs : p.withoutKey.Sound)
    (ho : (∃ q ∈ o.made, q.lasting = p.lasting) ∨
      (p.active = true ∧ ∃ q ∈ rows, q.lasting = p.lasting)) :
    OpenedInv rows issued ⟨o.transaction.stage p, o.made⟩ where
  distinct := Transaction.distinct_replace _ h.distinct
  sound q hq := by
    rcases Transaction.mem_of_mem_replace hq with rfl | hq
    exacts [hs, h.sound q hq]
  origin q hq := by
    rcases Transaction.mem_of_mem_replace hq with rfl | hq
    exacts [ho, h.origin q hq]
  staged q hq := by
    by_cases e : q.id = p.id
    · refine ⟨p.withoutKey, Transaction.mem_replace_self _ _, ?_⟩
      rcases ho with ⟨m, hm, hmp⟩ | ⟨-, r, hr, hrp⟩
      · rw [Profile.lasting_withoutKey, ← hmp]
        exact h.lasting_eq hm hq ((Profile.id_of_lasting hmp).trans e.symm)
      · exact absurd ((Profile.id_of_lasting hrp).trans e.symm) (h.unwritten q hq r hr)
    · obtain ⟨q', hq', e'⟩ := h.staged q hq
      refine ⟨q', Transaction.mem_replace_of_ne ?_ hq', e'⟩
      rw [Profile.withoutKey_id, Profile.id_of_lasting e']
      exact e
  unwritten := h.unwritten
  numbered := h.numbered
  keys := h.keys

/-- Callers get another version of a profile of the transaction. -/
theorem note (h : OpenedInv rows issued o) {p q : Profile} (hp : p ∈ o.made)
    (e : q.lasting = p.lasting) : OpenedInv rows issued ⟨o.transaction, q :: o.made⟩ where
  distinct := h.distinct
  sound := h.sound
  origin r hr := (h.origin r hr).imp (fun ⟨m, hm, hmr⟩ => ⟨m, List.mem_cons_of_mem _ hm, hmr⟩) id
  staged := List.forall_mem_cons.2 ⟨by rw [e]; exact h.staged p hp, h.staged⟩
  unwritten := List.forall_mem_cons.2
    ⟨by rw [Profile.id_of_lasting e]; exact h.unwritten p hp, h.unwritten⟩
  numbered := List.forall_mem_cons.2
    ⟨by rw [Profile.id_of_lasting e]; exact h.numbered p hp, h.numbered⟩
  keys := by
    have hq : ∀ r ∈ o.made, q.key = r.key → q.id = r.id := by
      rw [Profile.key_of_lasting e, Profile.id_of_lasting e]; exact h.keys p hp
    refine List.forall_mem_cons.2 ⟨List.forall_mem_cons.2 ⟨fun _ => rfl, hq⟩, fun r hr => ?_⟩
    exact List.forall_mem_cons.2 ⟨fun hk => (hq r hr hk.symm).symm, h.keys r hr⟩

/-- A new profile, by a number and a key that nothing has. -/
theorem create (h : OpenedInv rows issued o) (hrows : ∀ p ∈ rows, p.id ∈ issued) {p : Profile}
    (hs : p.withoutKey.Sound) (hid : p.id ∉ issued) (hkey : ∀ q ∈ o.transaction.pending, q.key ≠ p.key) :
    OpenedInv rows (p.id :: issued) ⟨o.transaction.stage p, p :: o.made⟩ where
  distinct := Transaction.distinct_replace _ h.distinct
  sound q hq := by
    rcases Transaction.mem_of_mem_replace hq with rfl | hq
    exacts [hs, h.sound q hq]
  origin q hq := by
    rcases Transaction.mem_of_mem_replace hq with rfl | hq
    · exact Or.inl ⟨p, List.mem_cons_self, rfl⟩
    · exact (h.origin q hq).imp (fun ⟨m, hm, e⟩ => ⟨m, List.mem_cons_of_mem _ hm, e⟩) id
  staged := by
    refine List.forall_mem_cons.2 ⟨⟨_, Transaction.mem_replace_self _ _, rfl⟩, fun q hq => ?_⟩
    obtain ⟨q', hq', e⟩ := h.staged q hq
    refine ⟨q', Transaction.mem_replace_of_ne (fun e' => hid ?_) hq', e⟩
    rw [Profile.withoutKey_id, Profile.id_of_lasting e] at e'
    exact e' ▸ h.numbered q hq
  unwritten := List.forall_mem_cons.2 ⟨fun q hq e => hid (e ▸ hrows q hq), h.unwritten⟩
  numbered := List.forall_mem_cons.2
    ⟨List.mem_cons_self, fun q hq => List.mem_cons_of_mem _ (h.numbered q hq)⟩
  keys := by
    have hp : ∀ q ∈ o.made, q.key ≠ p.key := by
      intro q hq e
      obtain ⟨q', hq', e'⟩ := h.staged q hq
      exact hkey q' hq' ((Profile.key_of_lasting e').trans e)
    refine List.forall_mem_cons.2
      ⟨List.forall_mem_cons.2 ⟨fun _ => rfl, fun q hq e => absurd e.symm (hp q hq)⟩, fun q hq => ?_⟩
    exact List.forall_mem_cons.2 ⟨fun e => absurd e (hp q hq), h.keys q hq⟩

end OpenedInv

end Traffic

end Registry

end Proofing
