import Mathlib.Data.List.Induction
import Proofing.Proofs.Registry.Traffic
/-
  Proofing — what a registry keeps over every history of overlapping transactions.

  A history is a list of acts, each of them permitted where it is done.  Whatever
  the callers do, and whichever calls are made to fail, `Inv.step` and `Grows`
  carry from act to act, so that they hold of the whole history (`Inv.run`);
  `kept_run` says what that means for the rows that are committed.
-/
namespace Proofing.Registry.Traffic

/-! ## One act -/

section
variable {w : Traffic}

theorem forall_update {f : Nat → Option Opened} {t : Nat} {o : Option Opened} {P : Opened → Prop}
    (hf : ∀ t' o', t' ≠ t → f t' = some o' → P o') (ho : ∀ o', o = some o' → P o') :
    ∀ t' o', Function.update f t o t' = some o' → P o' := by
  intro t' o' h
  by_cases e : t' = t
  · subst e; rw [Function.update_self] at h; exact ho o' h
  · rw [Function.update_of_ne e] at h; exact hf t' o' e h

theorem apart_update {f : Nat → Option Opened} {t : Nat} {o : Option Opened} (hf : Apart f)
    (ho : ∀ o', o = some o' → ∀ t' o'', t' ≠ t → f t' = some o'' →
      ∀ p ∈ o'.made, ∀ q ∈ o''.made, p.id ≠ q.id) :
    Apart (Function.update f t o) := by
  intro a b oa ob ha hb hab p hp q hq
  by_cases ea : a = t
  · subst ea
    rw [Function.update_self] at ha
    rw [Function.update_of_ne hab.symm] at hb
    exact ho oa ha b ob hab.symm hb p hp q hq
  · rw [Function.update_of_ne ea] at ha
    by_cases eb : b = t
    · subst eb
      rw [Function.update_self] at hb
      exact (ho ob hb a oa ea ha q hq p hp).symm
    · rw [Function.update_of_ne eb] at hb
      exact hf a b oa ob ha hb hab p hp q hq

/-- Another transaction, or none, comes under a label. -/
theorem Inv.setOpened (h : Inv w) {t : Nat} {o : Option Opened}
    (ho : ∀ o', o = some o' → OpenedInv w.registry.rows w.issued o')
    (hap : ∀ o', o = some o' → ∀ t' o'', t' ≠ t → w.opened t' = some o'' →
      ∀ p ∈ o'.made, ∀ q ∈ o''.made, p.id ≠ q.id) : Inv (w.setOpened t o) :=
  { h with
    opened := forall_update (fun t' o' _ => h.opened t' o') ho
    apart := apart_update h.apart hap }

theorem Inv.close (h : Inv w) (t : Nat) : Inv (w.setOpened t none) :=
  h.setOpened (fun _ e => by cases e) (fun _ e => by cases e)

theorem Inv.start (h : Inv w) (t : Nat) : Inv (w.step (.start t)) := by
  refine h.setOpened (fun o e => ?_) (fun o e => ?_)
  · cases e; exact .empty
  · cases e; simp

theorem Inv.find (h : Inv w) (id : ProfileId) : Inv (w.step (.find id)) := by
  refine { h with found := fun p hp => ?_ }
  rcases List.mem_append.1 hp with hp | hp
  · obtain ⟨hmem, -⟩ := mem_of_find? (Option.mem_toList.1 hp)
    exact ⟨p, hmem, rfl⟩
  · exact h.found p hp

theorem Inv.create (h : Inv w) (t : Nat) (d : Draft)
    (few : (w.step (.create t d)).issued.length < 2 ^ 64) : Inv (w.step (.create t d)) := by
  cases ho : w.opened t with
  | none => simpa only [step, ho] using h
  | some o =>
    cases hc : w.registry.create o.transaction d with
    | error e => rw [step_create_error ho hc]; exact h
    | ok x =>
      obtain ⟨p, registry, transaction⟩ := x
      rw [step_create_ok ho hc] at few ⊢
      obtain ⟨-, hkey, rfl, rfl, rfl⟩ := create_ok hc
      have hid := h.next_not_mem (Nat.lt_of_succ_lt few)
      have ho' := (h.opened t o ho).create h.numbered (Profile.sound_ofDraft _ d w.registry.now) hid
        hkey
      refine
        { ordered := h.ordered
          sound := h.sound
          keys := h.keys
          next := ?_
          issued := ?_
          numbered := fun q hq => List.mem_cons_of_mem _ (h.numbered q hq)
          found := h.found
          opened := forall_update (fun t' o' _ e => ?_) (fun o' e => ?_)
          apart := apart_update h.apart fun o' e t' o'' ht e' => ?_ }
      · simp only [List.length_cons, h.next]
        rw [UInt64.ofNat_add (w.issued.length + 1)]; rfl
      · simp only [List.length_cons, List.range_succ, List.map_append, List.map_cons, List.map_nil,
          List.reverse_append, List.reverse_cons, List.reverse_nil, List.nil_append,
          List.cons_append, ← h.issued]
        rw [← h.next]; rfl
      · exact (h.opened t' o' e).mono (.refl _) (h.opened t' o' e).unwritten
          fun _ hm => List.mem_cons_of_mem _ hm
      · cases e; exact ho'
      · cases e
        refine List.forall_mem_cons.2 ⟨fun q hq e => hid ?_, h.apart t t' o o'' ho e' ht.symm⟩
        have hq' := (h.opened t' o'' e').numbered q hq
        rwa [← e] at hq'

/-- The profile in a caller's hand once it is activated: another version of the same. -/
theorem activate_lasting (r : Registry) (t : Transaction) (p : Profile) :
    (r.activate t p).2.1.lasting = p.lasting := by
  rcases activate_eq r t p with ⟨-, x, e⟩ | ⟨-, e⟩
  · rw [e]
  · rw [e]; rfl

theorem OpenedInv.activate {rows : List Profile} {issued : List ProfileId} {o : Opened}
    (h : OpenedInv rows issued o) {p : Profile} (r : Registry)
    (hp : p ∈ o.made ∨ ∃ q ∈ rows, q.lasting = p.lasting) :
    OpenedInv rows issued ⟨(r.activate o.transaction p).2.2, o.made⟩ := by
  rcases activate_eq r o.transaction p with ⟨-, x, e⟩ | ⟨hfree, e⟩
  · rw [e]; exact h
  · rw [e]
    refine h.stage ⟨rfl, by simp [Profile.withoutKey], fun _ => hfree⟩ ?_
    exact hp.imp (fun hm => ⟨p, hm, rfl⟩) fun hq => ⟨rfl, hq⟩

theorem Inv.activate (h : Inv w) {t : Nat} {p : Profile} (hp : w.Permits (.activate t p)) :
    Inv (w.step (.activate t p)) := by
  cases ho : w.opened t with
  | none => simpa only [step, ho] using h
  | some o =>
    rw [step_activate ho]
    have hlast := activate_lasting w.registry o.transaction p
    have hin := h.opened t o ho
    have hact : OpenedInv w.registry.rows w.issued
        ⟨(w.registry.activate o.transaction p).2.2, o.made⟩ := by
      refine hin.activate _ ?_
      rcases hp with ⟨o', ho', hm⟩ | hm
      · rw [ho] at ho'; cases ho'; exact Or.inl hm
      · exact Or.inr (h.found p hm)
    have hopen : Inv (w.setOpened t (some ⟨(w.registry.activate o.transaction p).2.2,
        if p ∈ o.made then (w.registry.activate o.transaction p).2.1 :: o.made else o.made⟩)) := by
      refine h.setOpened (fun o' e => ?_) (fun o' e t' o'' ht e' => ?_)
      · cases e; split
        · exact hact.note ‹_› hlast
        · exact hact
      · cases e
        have hap := h.apart t t' o o'' ho e' ht.symm
        split
        · refine List.forall_mem_cons.2 ⟨?_, hap⟩
          rw [Profile.id_of_lasting hlast]; exact hap p ‹_›
        · exact hap
    refine { hopen with found := fun q hq => ?_ }
    change q ∈ (if p ∈ w.found then _ else _) at hq
    split at hq
    · rcases List.mem_cons.1 hq with rfl | hq
      · rw [hlast]; exact h.found p ‹_›
      · exact h.found q hq
    · exact h.found q hq

/-- A transaction that is written adds its own profiles to the rows and activates others. -/
theorem OpenedInv.grows {issued : List ProfileId} {o : Opened} {r : Registry}
    (h : OpenedInv r.rows issued o) (hr : Ordered r.rows) :
    Grows r.rows (written o.transaction.pending r.rows) := by
  intro q hq
  by_cases hp : ∃ p ∈ o.transaction.pending, q.id = p.id
  · obtain ⟨p, hp, e⟩ := hp
    rcases h.origin p hp with ⟨m, hm, hmp⟩ | ⟨ha, q', hq', hqp⟩
    · exact absurd (e.trans (Profile.id_of_lasting hmp).symm) (h.unwritten m hm q hq)
    · have : q' = q := hr.distinct.eq_of_id hq' hq ((Profile.id_of_lasting hqp).trans e.symm)
      exact ⟨p, (mem_written h.distinct hr).2 (Or.inl hp), this ▸ hqp.symm, fun _ => ha⟩
  · push Not at hp
    exact ⟨q, (mem_written h.distinct hr).2 (Or.inr ⟨hq, hp⟩), rfl, id⟩

/-- No two rows have the same key once a transaction without clashes is written. -/
theorem Inv.keys_written (h : Inv w) {t : Nat} {o : Opened} (ho : w.opened t = some o)
    (hclash : ∀ p ∈ o.transaction.pending, ∀ q ∈ w.registry.rows, q.id ≠ p.id → q.key ≠ p.key) :
    ∀ p ∈ written o.transaction.pending w.registry.rows,
      ∀ q ∈ written o.transaction.pending w.registry.rows, p.key = q.key → p.id = q.id := by
  have hin := h.opened t o ho
  -- a row of the transaction and any row of the registry
  have hold : ∀ p ∈ o.transaction.pending, ∀ q ∈ w.registry.rows, p.key = q.key → p.id = q.id := by
    intro p hp q hq hk
    by_contra hne
    exact hclash p hp q hq (Ne.symm hne) hk.symm
  -- two rows of the transaction, one of them activated there
  have hcopy : ∀ p ∈ o.transaction.pending, ∀ q : Profile, (∃ r ∈ w.registry.rows, r.lasting = q.lasting) →
      p.key = q.key → p.id = q.id := by
    rintro p hp q ⟨r, hr, e⟩ hk
    rw [← Profile.id_of_lasting e]
    exact hold p hp r hr (hk.trans (Profile.key_of_lasting e).symm)
  intro p hp q hq hk
  rw [mem_written hin.distinct h.ordered] at hp hq
  rcases hp with hp | ⟨hp, -⟩ <;> rcases hq with hq | ⟨hq, -⟩
  · rcases hin.origin p hp with ⟨m, hm, e⟩ | ⟨-, hr⟩
    · rcases hin.origin q hq with ⟨m', hm', e'⟩ | ⟨-, hr'⟩
      · rw [← Profile.id_of_lasting e, ← Profile.id_of_lasting e']
        refine hin.keys m hm m' hm' ?_
        rw [Profile.key_of_lasting e, Profile.key_of_lasting e', hk]
      · exact hcopy p hp q hr' hk
    · exact (hcopy q hq p hr hk.symm).symm
  · exact hold p hp q hq hk
  · exact (hold q hq p hp hk.symm).symm
  · exact h.keys p hp q hq hk

theorem Inv.commit (h : Inv w) (t : Nat) : Inv (w.step (.commit t)) := by
  cases ho : w.opened t with
  | none => simpa only [step, ho] using h
  | some o =>
    cases hc : w.registry.commit o.transaction with
    | error e => rw [step_commit_error ho hc]; exact h.close t
    | ok registry =>
      rw [step_commit_ok ho hc]
      obtain ⟨hclash, rfl⟩ := commit_ok hc
      have hin := h.opened t o ho
      have hgrows := hin.grows h.ordered
      have hmem := fun q => mem_written (q := q) hin.distinct h.ordered
      refine
        { ordered := ordered_written _ h.ordered
          sound := fun p hp => ?_
          keys := h.keys_written ho hclash
          next := h.next
          issued := h.issued
          numbered := fun p hp => ?_
          found := fun p hp => ?_
          opened := forall_update (fun t' o' ht e => ?_) (fun o' e => by cases e)
          apart := apart_update h.apart (fun o' e => by cases e) }
      · rcases (hmem p).1 hp with hp | ⟨hp, -⟩
        exacts [hin.sound p hp, h.sound p hp]
      · rcases (hmem p).1 hp with hp | ⟨hp, -⟩
        · rcases hin.origin p hp with ⟨m, hm, e⟩ | ⟨-, q, hq, e⟩
          · exact Profile.id_of_lasting e ▸ hin.numbered m hm
          · exact Profile.id_of_lasting e ▸ h.numbered q hq
        · exact h.numbered p hp
      · obtain ⟨q, hq, e⟩ := h.found p hp
        obtain ⟨q', hq', e', -⟩ := hgrows q hq
        exact ⟨q', hq', e'.trans e⟩
      · refine (h.opened t' o' e).mono hgrows (fun p hp q hq => ?_) fun _ hi => hi
        rcases (hmem q).1 hq with hq | ⟨hq, -⟩
        · rcases hin.origin q hq with ⟨m, hm, eq⟩ | ⟨-, r, hr, eq⟩
          · rw [← Profile.id_of_lasting eq]
            exact h.apart t t' o o' ho e ht.symm m hm p hp
          · rw [← Profile.id_of_lasting eq]
            exact (h.opened t' o' e).unwritten p hp r hr
        · exact (h.opened t' o' e).unwritten p hp q hq

/-- **Every permitted act keeps the invariant**, as long as there are numbers left. -/
theorem Inv.step (h : Inv w) {a : Act} (ha : w.Permits a)
    (few : (w.step a).issued.length < 2 ^ 64) : Inv (w.step a) := by
  cases a with
  | start t => exact h.start t
  | create t d => exact h.create t d few
  | activate t p => exact h.activate ha
  | find id => exact h.find id
  | commit t => exact h.commit t
  | drop t => exact h.close t
  | failCreates on => exact { h with }
  | failCommits on => exact { h with }
  | setClock now => exact { h with }

/-- Only a commit that succeeds changes the rows. -/
theorem rows_step (w : Traffic) (a : Act) :
    (w.step a).registry.rows = w.registry.rows ∨
      ∃ t o r, a = .commit t ∧ w.opened t = some o ∧ w.registry.commit o.transaction = .ok r ∧
        (w.step a).registry.rows = written o.transaction.pending w.registry.rows := by
  cases a with
  | create t d =>
    left
    cases ho : w.opened t with
    | none => simp only [step, ho]
    | some o =>
      cases hc : w.registry.create o.transaction d with
      | error e => rw [step_create_error ho hc]
      | ok x =>
        obtain ⟨p, r, x⟩ := x
        obtain ⟨-, -, -, rfl, -⟩ := create_ok hc
        rw [step_create_ok ho hc]
  | activate t p =>
    left
    cases ho : w.opened t with
    | none => simp only [step, ho]
    | some o => rw [step_activate ho]; rfl
  | commit t =>
    cases ho : w.opened t with
    | none => left; simp only [step, ho]
    | some o =>
      cases hc : w.registry.commit o.transaction with
      | error e => left; rw [step_commit_error ho hc]; rfl
      | ok r =>
        right
        obtain ⟨-, rfl⟩ := commit_ok hc
        exact ⟨t, o, _, rfl, ho, hc, by rw [step_commit_ok ho hc]⟩
  | start | find | drop | failCreates | failCommits | setClock => exact Or.inl rfl

/-- **No act loses a row**, nor changes it but by its activation. -/
theorem Inv.grows_step (h : Inv w) (a : Act) : Grows w.registry.rows (w.step a).registry.rows := by
  rcases rows_step w a with e | ⟨t, o, r, -, ho, -, e⟩
  · rw [e]; exact .refl _
  · rw [e]; exact (h.opened t o ho).grows h.ordered

theorem issued_step (w : Traffic) (a : Act) : ∃ ids, (w.step a).issued = ids ++ w.issued := by
  cases a with
  | create t d =>
    cases ho : w.opened t with
    | none => exact ⟨[], by simp only [step, ho, List.nil_append]⟩
    | some o =>
      cases hc : w.registry.create o.transaction d with
      | error e => exact ⟨[], by rw [step_create_error ho hc, List.nil_append]⟩
      | ok x => exact ⟨[x.1.id], by rw [step_create_ok ho hc]; rfl⟩
  | activate t p =>
    cases ho : w.opened t with
    | none => exact ⟨[], by simp only [step, ho, List.nil_append]⟩
    | some o => exact ⟨[], by rw [step_activate ho]; rfl⟩
  | commit t =>
    cases ho : w.opened t with
    | none => exact ⟨[], by simp only [step, ho, List.nil_append]⟩
    | some o =>
      cases hc : w.registry.commit o.transaction with
      | error e => exact ⟨[], by rw [step_commit_error ho hc]; rfl⟩
      | ok r => exact ⟨[], by rw [step_commit_ok ho hc]; rfl⟩
  | start | find | drop | failCreates | failCommits | setClock => exact ⟨[], rfl⟩

end

/-! ## Histories -/

/-- What a history of acts leads to. -/
def run (w : Traffic) (acts : List Act) : Traffic :=
  acts.foldl step w

/-- Each act is permitted where it is done. -/
def Permitted (w : Traffic) : List Act → Prop
  | [] => True
  | a :: acts => w.Permits a ∧ Permitted (w.step a) acts

theorem run_append (w : Traffic) (acts acts' : List Act) :
    w.run (acts ++ acts') = (w.run acts).run acts' :=
  List.foldl_append

theorem permitted_append {w : Traffic} {acts acts' : List Act} :
    w.Permitted (acts ++ acts') ↔ w.Permitted acts ∧ (w.run acts).Permitted acts' := by
  induction acts generalizing w with
  | nil => simp [Permitted, run]
  | cons a acts ih => simp only [List.cons_append, Permitted, ih, and_assoc]; rfl

theorem issued_run (w : Traffic) (acts : List Act) : ∃ ids, (w.run acts).issued = ids ++ w.issued := by
  induction acts generalizing w with
  | nil => exact ⟨[], rfl⟩
  | cons a acts ih =>
    obtain ⟨ids, h⟩ := issued_step w a
    obtain ⟨ids', h'⟩ := ih (w.step a)
    exact ⟨ids' ++ ids, by rw [List.append_assoc, ← h]; exact h'⟩

theorem length_issued_le (w : Traffic) (acts : List Act) :
    w.issued.length ≤ (w.run acts).issued.length := by
  obtain ⟨ids, h⟩ := issued_run w acts
  rw [h, List.length_append]; omega

/-- **The invariant holds after every history** that leaves numbers to be issued, and no row is lost
    on the way. -/
theorem Inv.run {w : Traffic} (h : Inv w) {acts : List Act} (hp : w.Permitted acts)
    (few : (w.run acts).issued.length < 2 ^ 64) :
    Inv (w.run acts) ∧ Grows w.registry.rows (w.run acts).registry.rows := by
  induction acts generalizing w with
  | nil => exact ⟨h, .refl _⟩
  | cons a acts ih =>
    have hstep := h.step hp.1 (Nat.lt_of_le_of_lt (length_issued_le (w.step a) acts) few)
    obtain ⟨hinv, hgrows⟩ := ih hstep hp.2 few
    exact ⟨hinv, (h.grows_step a).trans hgrows⟩

/-- Every row was collected in a transaction whose commit succeeded. -/
theorem Inv.committed {w : Traffic} (h : Inv w) (hw : w.registry.rows = []) {acts : List Act}
    (hp : w.Permitted acts) (few : (w.run acts).issued.length < 2 ^ 64) {p : Profile}
    (hmem : p ∈ (w.run acts).registry.rows) :
    ∃ before t after o r, acts = before ++ .commit t :: after ∧ (w.run before).opened t = some o ∧
      (w.run before).registry.commit o.transaction = .ok r ∧ p ∈ o.transaction.pending := by
  induction acts using List.reverseRecOn with
  | nil => rw [show (w.run []).registry.rows = [] from hw] at hmem; cases hmem
  | append_singleton acts a ih =>
    obtain ⟨hp, -⟩ := permitted_append.1 hp
    rw [run_append] at few hmem
    have few := Nat.lt_of_le_of_lt (length_issued_le (w.run acts) [a]) few
    obtain ⟨hinv, -⟩ := h.run hp few
    have earlier (hold : p ∈ (w.run acts).registry.rows) :
        ∃ before t after o r, acts ++ [a] = before ++ .commit t :: after ∧
          (w.run before).opened t = some o ∧
          (w.run before).registry.commit o.transaction = .ok r ∧ p ∈ o.transaction.pending := by
      obtain ⟨b, t, c, o, r, rfl, hrest⟩ := ih hp few hold
      exact ⟨b, t, c ++ [a], o, r, by simp, hrest⟩
    change p ∈ ((w.run acts).step a).registry.rows at hmem
    rcases rows_step (w.run acts) a with e | ⟨t, o, r, rfl, ho, hc, e⟩
    · exact earlier (e ▸ hmem)
    · rw [e, mem_written (hinv.opened t o ho).distinct hinv.ordered] at hmem
      rcases hmem with hp | ⟨hold, -⟩
      exacts [⟨acts, t, [], o, r, rfl, ho, hc, hp⟩, earlier hold]

/-- A row of a transaction that was just committed is found. -/
theorem Inv.find?_committed {w : Traffic} (h : Inv w) {t : Nat} {o : Opened} {r : Registry}
    (ho : w.opened t = some o) (hc : w.registry.commit o.transaction = .ok r) {p : Profile}
    (hp : p ∈ o.transaction.pending) : (w.step (.commit t)).registry.find? p.id = some p := by
  have hinv := h.commit t
  rw [step_commit_ok ho hc] at hinv ⊢
  obtain ⟨-, rfl⟩ := commit_ok hc
  rw [find?_eq_some_iff hinv.ordered]
  exact ⟨(mem_written (h.opened t o ho).distinct h.ordered).2 (Or.inl hp), rfl⟩

/-! ## What is kept -/

/-- What callers can rely on in a registry `w` that a history has led to. -/
structure Kept (now : Timestamp) (acts : List Act) (w : Traffic) : Prop where
  /-- No two rows have the same key. -/
  keys : w.registry.rows.Pairwise fun p q => p.key ≠ q.key
  /-- A row is found under its own number. -/
  own : ∀ p ∈ w.registry.rows, w.registry.find? p.id = some p
  /-- No number is given to two profiles, be they committed or not. -/
  numbers : w.issued.Nodup
  keyless : ∀ p ∈ w.registry.rows, p.personalKey = none
  dated : ∀ p ∈ w.registry.rows, p.active = true ↔ p.activatedAt.isSome = true
  free : ∀ p ∈ w.registry.rows, p.active = true → p.holds = []
  /-- A row is never lost, and keeps its user, its key, its envelopes and its activation. -/
  lasting : ∀ before after, acts = before ++ after →
    ∀ p ∈ ((fresh now).run before).registry.rows, ∃ q, w.registry.find? p.id = some q ∧
      q.id = p.id ∧ q.user = p.user ∧ q.key = p.key ∧ q.pii = p.pii ∧ q.recovery = p.recovery ∧
      (p.active = true → q.active = true)
  /-- What is found was collected in a transaction whose commit succeeded. -/
  found : ∀ id p, w.registry.find? id = some p → p.id = id ∧
    ∃ before t after o r, acts = before ++ .commit t :: after ∧
      ((fresh now).run before).opened t = some o ∧
      ((fresh now).run before).registry.commit o.transaction = .ok r ∧ p ∈ o.transaction.pending
  /-- A profile is not found while the transaction that made it is open. -/
  unfound : ∀ t o, w.opened t = some o → ∀ p ∈ o.made, w.registry.find? p.id = none
  /-- A commit that succeeds writes the whole transaction. -/
  written : ∀ t o r, w.opened t = some o → w.registry.commit o.transaction = .ok r →
    ∀ p ∈ o.transaction.pending, (w.step (.commit t)).registry.find? p.id = some p
  /-- A commit that fails leaves the rows as they were. -/
  failed : ∀ t o e, w.opened t = some o → w.registry.commit o.transaction = .error e →
    (w.step (.commit t)).registry.rows = w.registry.rows
  /-- So does a transaction that is dropped. -/
  dropped : ∀ t, (w.step (.drop t)).registry.rows = w.registry.rows

/-- **A registry keeps its promises over every history** of overlapping transactions, whichever
    calls are made to fail and whatever the clock shows, as long as fewer than 2^64 profiles were
    created. -/
theorem kept_run (now : Timestamp) (acts : List Act) (permitted : (fresh now).Permitted acts)
    (few : ((fresh now).run acts).issued.length < 2 ^ 64) :
    Kept now acts ((fresh now).run acts) := by
  obtain ⟨hinv, -⟩ := (inv_fresh now).run permitted few
  have hfind {id : ProfileId} {p : Profile} := @find?_eq_some_iff _ hinv.ordered id p
  constructor
  case keys =>
    refine hinv.ordered.distinct.imp_of_mem fun hp hq hne hk => ?_
    exact hne (hinv.keys _ hp _ hq hk)
  case own => exact fun p hp => hfind.2 ⟨hp, rfl⟩
  case numbers => exact hinv.nodup_issued few
  case keyless => exact fun p hp => (hinv.sound p hp).keyless
  case dated => exact fun p hp => (hinv.sound p hp).dated
  case free => exact fun p hp => (hinv.sound p hp).free
  case lasting =>
    rintro before after rfl p hp
    obtain ⟨hbefore, hafter⟩ := permitted_append.1 permitted
    rw [run_append] at few hfind ⊢
    obtain ⟨hinv', -⟩ := (inv_fresh now).run hbefore
      (Nat.lt_of_le_of_lt (length_issued_le _ after) few)
    obtain ⟨-, hgrows⟩ := hinv'.run hafter few
    obtain ⟨q, hq, e, hactive⟩ := hgrows p hp
    refine ⟨q, hfind.2 ⟨hq, congrArg (·.id) e⟩, congrArg (·.id) e, congrArg (·.user) e,
      congrArg (·.key) e, congrArg (·.pii) e, congrArg (·.recovery) e, hactive⟩
  case found =>
    intro id p h
    obtain ⟨hp, hid⟩ := hfind.1 h
    exact ⟨hid, (inv_fresh now).committed rfl permitted few hp⟩
  case unfound =>
    intro t o ho p hp
    exact find?_eq_none_iff.2 ((hinv.opened t o ho).unwritten p hp)
  case written => exact fun t o r ho hc p hp => hinv.find?_committed ho hc hp
  case failed =>
    intro t o e ho hc
    rw [step_commit_error ho hc]; rfl
  case dropped => exact fun t => rfl

/-- An envelope with nothing in it. -/
def emptyEnvelope : Envelope := ⟨1, "aes-256-gcm", "argon2id", .light, "", "", ""⟩

/-- The user whose number is zero. -/
def zeroUser : UserId := ⟨⟨List.replicate 16 0, rfl⟩⟩

/-- The choices of a personal key that all came out as zeros. -/
def zeroChoices : Fin 16 → Fin 32 := fun _ => 0

/-- A draft by a key, without envelopes and holds. -/
def sampleDraft (key : String) : Draft where
  user := zeroUser
  provider := none
  pii := emptyEnvelope
  recovery := emptyEnvelope
  personalKey := .draw zeroChoices
  key := ⟨key⟩
  fraud := none
  letterNeeded := false
  visitNeeded := false

/-- Two transactions create and activate a profile by the same key; the one that commits later
    loses, and the profile is activated once more by a caller who has found it. -/
def race : List Act :=
  let p := Profile.ofDraft ⟨1⟩ (sampleDraft "k") ⟨7⟩
  let q := Profile.ofDraft ⟨2⟩ (sampleDraft "k") ⟨7⟩
  [.start 0, .start 1, .create 0 (sampleDraft "k"), .create 1 (sampleDraft "k"), .activate 1 q,
    .activate 0 p, .commit 1, .commit 0, .find ⟨2⟩, .start 0,
    .activate 0 { q.withoutKey with active := true, activatedAt := some ⟨7⟩ }, .setClock ⟨9⟩,
    .commit 0]

theorem kept_race :
    (fresh ⟨7⟩).Permitted race ∧ ((fresh ⟨7⟩).run race).issued.length < 2 ^ 64 ∧
      ((fresh ⟨7⟩).run race).registry.rows.length = 1 ∧
      Kept ⟨7⟩ race ((fresh ⟨7⟩).run race) := by
  have permitted : (fresh ⟨7⟩).Permitted race :=
    ⟨trivial, trivial, trivial, trivial, Or.inl ⟨_, rfl, List.mem_cons_self⟩,
      Or.inl ⟨_, rfl, List.mem_cons_self⟩, trivial, trivial, trivial, trivial,
      Or.inr List.mem_cons_self, trivial, trivial, trivial⟩
  have few : ((fresh ⟨7⟩).run race).issued.length < 2 ^ 64 := by decide
  exact ⟨permitted, few, by decide, kept_run ⟨7⟩ race permitted few⟩

end Traffic

/-! ## Reachable registries -/

/-- The registry is one that some history leads to, with numbers left. -/
def Reachable (r : Registry) : Prop :=
  ∃ now acts, (Traffic.fresh now).Permitted acts ∧
    ((Traffic.fresh now).run acts).issued.length < 2 ^ 64 ∧
    ((Traffic.fresh now).run acts).registry = r

theorem reachable_empty (now : Timestamp) : (empty now).Reachable :=
  ⟨now, [], trivial, Nat.two_pow_pos 64, rfl⟩

theorem Reachable.ordered {r : Registry} (h : r.Reachable) : Ordered r.rows := by
  obtain ⟨now, acts, permitted, few, rfl⟩ := h
  exact ((Traffic.inv_fresh now).run permitted few).1.ordered

/-- The next profile gets a number that no row has. -/
theorem Reachable.next_unused {r : Registry} (h : r.Reachable) {p : Profile} (hp : p ∈ r.rows) :
    p.id ≠ ⟨r.nextId⟩ := by
  obtain ⟨now, acts, permitted, few, rfl⟩ := h
  obtain ⟨hinv, -⟩ := (Traffic.inv_fresh now).run permitted few
  exact fun e => hinv.next_not_mem few (e ▸ hinv.numbered p hp)

end Proofing.Registry
