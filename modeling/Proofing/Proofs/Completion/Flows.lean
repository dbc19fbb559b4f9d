import Proofing.Proofs.Completion.Crowd
import Proofing.Proofs.Idempotency
/-
  Proofing — requests for the profiles of several runs of a flow at once.

  Every client has a key of its own here, so the requests may be copies of one
  session or belong to different runs.  `Keyed` is what holds all the time:
  the rows that were there stay, a row that is new was committed for a key, and
  nobody is turned away for the key of someone else (`keyed_run`).
-/
namespace Proofing

/-- The registry is one that some history leads to, with numbers left for more profiles. -/
def Registry.Spare (r : Registry) (more : Nat) : Prop :=
  ∃ now acts, (Traffic.fresh now).Permitted acts ∧
    ((Traffic.fresh now).run acts).issued.length + more ≤ 2 ^ 64 ∧
    ((Traffic.fresh now).run acts).registry = r

/-- None of the numbers that are left is that of a row. -/
theorem Registry.Spare.unused {r : Registry} {more : Nat} (h : r.Spare more) {p : Profile}
    (hp : p ∈ r.rows) {k : Nat} (hk : k < more) : p.id ≠ ⟨r.nextId + UInt64.ofNat k⟩ := by
  obtain ⟨now, acts, permitted, few, rfl⟩ := h
  obtain ⟨hinv, -⟩ := (Traffic.inv_fresh now).run permitted (by omega)
  have hissued := hinv.numbered p hp
  rw [hinv.issued] at hissued
  simp only [List.mem_reverse, List.mem_map, List.mem_range] at hissued
  obtain ⟨l, hl, hid⟩ := hissued
  rw [← hid, hinv.next, ← UInt64.ofNat_add]
  intro e
  have hnat := congrArg UInt64.toNat (ProfileId.mk.inj e)
  rw [UInt64.toNat_ofNat', UInt64.toNat_ofNat'] at hnat
  omega

namespace Completion

namespace Crowd
variable {n : Nat}

/-- There are numbers for all the profiles that may be created: none of them is that of a row. -/
def Unused (w : Crowd n) : Prop :=
  ∀ p ∈ w.office.registry.rows, ∀ k < n, p.id ≠ ⟨w.office.registry.nextId + UInt64.ofNat k⟩

/-- Why a client is refused: for a profile by its own key, which was there at first or was committed
    by a client, or for a fault from outside. -/
def Turned (key : Fin n → IdempotencyKey) (allowed : StoreFault → Prop) (w₀ w : Crowd n) (i : Fin n)
    (e : FlowError) : Prop :=
  ∃ fault, e = .notCreated fault ∧
    ((fault = .duplicate (key i).text ∧ ((∃ p ∈ w₀.office.registry.rows, p.key = key i) ∨
      ∃ j, w.Committed j ∧ key j = key i)) ∨ allowed fault)

/-- What holds of a crowd all the time in which each client has a key of its own. -/
structure Keyed (key : Fin n → IdempotencyKey) (allowed : StoreFault → Prop) (w₀ w : Crowd n) :
    Prop where
  fits : ∀ i, Fits (key i) (w₀.clients i) (w.clients i)
  numbering : ∃ order, Numbering w₀.office.registry.nextId w order
  kept : ∀ p ∈ w₀.office.registry.rows, p ∈ w.office.registry.rows
  committed : ∀ i p, (w.clients i).progress.committed? = some p →
    p.key = key i ∧ p.withoutKey ∈ w.office.registry.rows
  rows : ∀ p ∈ w.office.registry.rows,
    p ∈ w₀.office.registry.rows ∨ ∃ i, w.Committed i ∧ p.key = key i
  refused : ∀ i e, (w.clients i).progress = .refused e → Turned key allowed w₀ w i e
  injects : ∀ fault, Injects w.office fault → allowed fault
  single : ∀ i j, w.Committed i → w.Committed j → key i = key j → i = j

section
variable {key : Fin n → IdempotencyKey} {allowed : StoreFault → Prop} {w₀ w : Crowd n} {i : Fin n}
  {o' : Office} {c' : Client}

theorem Keyed.turned (h : Keyed key allowed w₀ w) {e : FlowError} (he : Refusal (key i) w.office e) :
    Turned key allowed w₀ w i e := by
  obtain ⟨fault, rfl, ⟨hd, p, hp, hk⟩ | hin⟩ := he
  · refine ⟨fault, rfl, .inl ⟨hd, ?_⟩⟩
    rcases h.rows p hp with hold | ⟨j, hj, hkj⟩
    exacts [.inl ⟨p, hold, hk⟩, .inr ⟨j, hj, hkj.symm.trans hk⟩]
  · exact ⟨fault, rfl, .inr (h.injects fault hin)⟩

/-- A step that writes no row. -/
theorem Keyed.same (h : Keyed key allowed w₀ w)
    (e : Effect (key i) w.office (w.clients i) o' c') (hf : Fits (key i) (w₀.clients i) c')
    (rows : o'.registry.rows = w.office.registry.rows)
    (committed : c'.progress.committed? = (w.clients i).progress.committed?)
    (refused : ∀ x, c'.progress = .refused x →
      (w.clients i).progress = .refused x ∨ Refusal (key i) w.office x) :
    Keyed key allowed w₀ (w.put i (o', c')) := by
  have same (j : Fin n) : (w.put i (o', c')).Committed j ↔ w.Committed j := by
    rw [Committed, Committed, committed?_put committed]
  have hrows : (w.put i (o', c')).office.registry.rows = w.office.registry.rows := rows
  constructor
  case fits => exact forall_put (P := fun j c => Fits (key j) (w₀.clients j) c) hf fun j _ => h.fits j
  case numbering =>
    obtain ⟨order, ho⟩ := h.numbering
    exact ho.effect e
  case kept => rw [hrows]; exact h.kept
  case committed =>
    intro j p hp
    rw [committed?_put committed] at hp
    rw [hrows]
    exact h.committed j p hp
  case rows =>
    simp only [hrows, same]
    exact h.rows
  case refused =>
    simp only [Turned, same]
    refine forall_put (P := fun j c => ∀ x, c.progress = .refused x → Turned key allowed w₀ w j x)
      (fun x hx => ?_) fun j _ => h.refused j
    rcases refused x hx with hx | hx
    exacts [h.refused i x hx, h.turned hx]
  case injects => exact fun fault hin => h.injects fault (e.injects hin)
  case single =>
    simp only [same]
    exact h.single

/-- A profile is committed: nobody else has committed one by its key, and no row is lost, for no
    other profile has its number. -/
theorem Keyed.commit (h : Keyed key allowed w₀ w) (few : n ≤ 2 ^ 64) (unused : w₀.Unused)
    {p : Profile} {r : Registry} (hf : Fits (key i) (w₀.clients i) c')
    (e : Effect (key i) w.office (w.clients i) { w.office with registry := r } c')
    (created : (w.clients i).progress.created? = some p)
    (old : (w.clients i).progress.committed? = none)
    (committed : c'.progress.committed? = some p) (refused : ∀ x, c'.progress ≠ .refused x)
    (hk : p.key = key i)
    (written : w.office.registry.commit (Transaction.empty.stage p) = .ok r) :
    Keyed key allowed w₀ (w.put i ({ w.office with registry := r }, c')) := by
  obtain ⟨-, hr⟩ := Registry.commit_ok written
  obtain ⟨order, ho⟩ := h.numbering
  have hput : (w.put i ({ w.office with registry := r }, c')).office.registry.rows =
    Registry.place p.withoutKey w.office.registry.rows := congrArg Registry.rows hr
  have hself : (w.put i ({ w.office with registry := r }, c')).Committed i := by
    rw [committed_put_self, committed]
    rfl
  -- other profiles that are committed have other numbers, and rows, so they have other keys
  have others {j : Fin n} {q : Profile} (hj : j ≠ i)
      (hq : (w.clients j).progress.committed? = some q) :
      q.withoutKey.id ≠ p.withoutKey.id ∧ key j ≠ key i := by
    obtain ⟨hqk, hrow⟩ := h.committed j q hq
    obtain ⟨hid, hkey⟩ := ho.apart few created written hj hq hrow
    exact ⟨hid, fun hkeys => hkey (hqk.trans (hkeys.trans hk.symm))⟩
  constructor
  case fits => exact forall_put (P := fun j c => Fits (key j) (w₀.clients j) c) hf fun j _ => h.fits j
  case numbering => exact ho.effect e
  case kept =>
    intro q hq
    obtain ⟨k, hk', hid⟩ := ho.number i p created
    have hlen : order.length ≤ n := by simpa using ho.nodup.length_le_card
    have hkn : k < n := (List.getElem?_eq_some_iff.1 hk').1.trans_le hlen
    rw [hput]
    refine Registry.mem_place_of_ne ?_ (h.kept q hq)
    rw [Profile.withoutKey_id, hid]
    exact unused q hq k hkn
  case committed =>
    intro j q hq
    rw [hput]
    by_cases hj : j = i
    · subst hj
      rw [clients_put_self, committed] at hq
      cases hq
      exact ⟨hk, Registry.mem_place_self _ _⟩
    · rw [clients_put_of_ne w hj] at hq
      obtain ⟨hqk, hrow⟩ := h.committed j q hq
      exact ⟨hqk, Registry.mem_place_of_ne (others hj hq).1 hrow⟩
  case rows =>
    intro q hq
    rw [hput] at hq
    rcases Registry.mem_of_mem_place hq with rfl | hq
    · exact .inr ⟨i, hself, hk⟩
    · exact (h.rows q hq).imp_right fun ⟨j, hj, hkj⟩ => ⟨j, committed_put e hj, hkj⟩
  case refused =>
    refine forall_put (P := fun j c => ∀ x, c.progress = .refused x → Turned key allowed w₀ _ j x)
      (fun x hx => absurd hx (refused x)) fun j _ x hx => ?_
    obtain ⟨fault, rfl, ⟨hd, hwhy⟩ | hin⟩ := h.refused j x hx
    · exact ⟨fault, rfl, .inl ⟨hd, hwhy.imp_right fun ⟨l, hl, hkl⟩ => ⟨l, committed_put e hl, hkl⟩⟩⟩
    · exact ⟨fault, rfl, .inr hin⟩
  case injects => exact fun fault hin => h.injects fault (e.injects hin)
  case single =>
    have apart {j : Fin n} (hj : j ≠ i)
        (hc : (w.put i ({ w.office with registry := r }, c')).Committed j) : key j ≠ key i := by
      obtain ⟨q, hq⟩ := Option.isSome_iff_exists.1 ((committed_put_of_ne w hj _).1 hc)
      exact (others hj hq).2
    intro j l hj hl hkeys
    by_cases hji : j = i
    · by_cases hli : l = i
      · rw [hji, hli]
      · exact absurd (hji ▸ hkeys).symm (apart hli hl)
    · by_cases hli : l = i
      · exact absurd (hli ▸ hkeys) (apart hji hj)
      · exact h.single j l ((committed_put_of_ne w hji _).1 hj) ((committed_put_of_ne w hli _).1 hl)
          hkeys

theorem Keyed.effect (h : Keyed key allowed w₀ w) (few : n ≤ 2 ^ 64) (unused : w₀.Unused)
    (hf : Fits (key i) (w₀.clients i) c') (e : Effect (key i) w.office (w.clients i) o' c') :
    Keyed key allowed w₀ (w.put i (o', c')) := by
  cases e with
  | quiet registry down before created committed refused =>
    exact h.same (.quiet registry down before created committed refused) hf (by rw [registry])
      committed refused
  | creates before after created number old committed refused =>
    exact h.same (.creates before after created number old committed refused) hf rfl
      (committed.trans old.symm) fun x hx => absurd hx (refused x)
  | commits after created created' old committed refused hk written =>
    exact h.commit few unused hf (.commits after created created' old committed refused hk written)
      created old committed refused hk written

/-! ## Moves and runs -/

/-- What comes from outside leaves the clients and the rows alone. -/
theorem Keyed.office (h : Keyed key allowed w₀ w) {o : Office}
    (rows : o.registry.rows = w.office.registry.rows)
    (next : o.registry.nextId = w.office.registry.nextId)
    (injects : ∀ fault, Injects o fault → allowed fault) :
    Keyed key allowed w₀ { w with office := o } := by
  have hrows : ({ w with office := o } : Crowd n).office.registry.rows = w.office.registry.rows := rows
  constructor
  case fits => exact h.fits
  case numbering =>
    obtain ⟨order, ho⟩ := h.numbering
    exact ⟨order, ho.nodup, next.trans ho.next, ho.past, ho.number⟩
  case kept => rw [hrows]; exact h.kept
  case committed => rw [hrows]; exact h.committed
  case rows => rw [hrows]; exact h.rows
  case refused => exact h.refused
  case injects => exact injects
  case single => exact h.single

end

section
open IdempotencyKey (Origin)
variable {origin : Fin n → Origin} {allowed : StoreFault → Prop} {w₀ w : Crowd n}

/-- Every client waits with a copy of the session of its run of the flow. -/
def Waits (origin : Fin n → Origin) (w : Crowd n) : Prop :=
  ∀ i, Ready (origin i).session (origin i).flow (origin i).user (w.clients i)

theorem Keyed.move (h : Keyed (fun i => (origin i).key) allowed w₀ w) (few : n ≤ 2 ^ 64)
    (unused : w₀.Unused) (waits : w₀.Waits origin) (m : Move n)
    (hm : ∀ f fault, m = .fail f true → injected? f = some fault → allowed fault) :
    Keyed (fun i => (origin i).key) allowed w₀ (w.move m) := by
  cases m with
  | step i =>
    obtain ⟨hf, he⟩ := (h.fits i).step (waits i) rfl w.office
    exact h.effect few unused hf he
  | drop i =>
    obtain ⟨hf, he⟩ := (h.fits i).drop w.office
    exact h.effect few unused hf he
  | fail f on =>
    obtain ⟨hrows, hnext⟩ := rows_setFailing w.office f on
    refine h.office hrows hnext fun fault hin => ?_
    rcases injects_setFailing hin with hin | ⟨rfl, hf⟩
    exacts [h.injects fault hin, hm f fault rfl hf]
  | setClock now =>
    exact h.office rfl rfl fun fault hin => h.injects fault (injects_setClock hin)

theorem keyed_waits (waits : w₀.Waits origin) (hin : ∀ fault, Injects w₀.office fault → allowed fault) :
    Keyed (fun i => (origin i).key) allowed w₀ w₀ := by
  have none_yet (i : Fin n) : ¬ w₀.Committed i := by
    rw [Committed, (waits i).waiting]
    exact Bool.false_ne_true
  constructor
  case fits => exact fun i => .of_ready (waits i)
  case numbering =>
    refine ⟨[], List.nodup_nil, by simp, by simp, fun i p hp => ?_⟩
    rw [(waits i).waiting] at hp
    cases hp
  case kept => exact fun p hp => hp
  case committed => exact fun i p hp => absurd (Option.isSome_iff_exists.2 ⟨p, hp⟩) (none_yet i)
  case rows => exact fun p hp => .inl hp
  case refused =>
    intro i e he
    rw [(waits i).waiting] at he
    cases he
  case injects => exact hin
  case single => exact fun i j hi => absurd hi (none_yet i)

/-- **Requests of different runs do not get in each other's way**: whatever the clients do, a row
    stays, and who is refused for a key is refused for that of its own run. -/
theorem keyed_run (waits : w₀.Waits origin) (few : n ≤ 2 ^ 64) (unused : w₀.Unused)
    (ms : List (Move n)) :
    Keyed (fun i => (origin i).key) (Injected w₀ ms) w₀ (w₀.run ms) := by
  have all (ms' : List (Move n)) (sub : ∀ m ∈ ms', m ∈ ms) {w : Crowd n}
      (h : Keyed (fun i => (origin i).key) (Injected w₀ ms) w₀ w) :
      Keyed (fun i => (origin i).key) (Injected w₀ ms) w₀ (w.run ms') := by
    induction ms' generalizing w with
    | nil => exact h
    | cons m ms' ih =>
      obtain ⟨hm, hms⟩ := List.forall_mem_cons.1 sub
      refine ih hms (h.move few unused waits m fun f fault e hf => ⟨f, hf, .inr ?_⟩)
      rw [← e]
      exact hm
  exact all ms (fun _ hm => hm) (keyed_waits waits fun fault ⟨f, hf, hon⟩ => ⟨f, hf, .inl hon⟩)

end

end Crowd

end Completion

end Proofing
