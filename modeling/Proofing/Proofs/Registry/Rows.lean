import Mathlib.Tactic.Common
import Mathlib.Data.List.Nodup
import Proofing.Registry
/-
  Proofing — the rows of a registry and of its transactions.

  * `mem_replace`, `mem_place` and `mem_written` say which rows there are once a
    row is staged, once it is written, and once a transaction is;
  * `create_ok`, `commit_ok` and the lemmas on refusals say everything that
    creating a profile and committing a transaction can do.
-/
namespace Proofing

/-- No two rows have the same number. -/
def DistinctIds (rows : List Profile) : Prop :=
  rows.Pairwise fun p q => p.id ≠ q.id

theorem DistinctIds.eq_of_id {rows : List Profile} (h : DistinctIds rows) {p q : Profile}
    (hp : p ∈ rows) (hq : q ∈ rows) (e : p.id = q.id) : p = q :=
  List.inj_on_of_nodup_map (List.pairwise_map.2 h) hp hq e

theorem Profile.withoutKey_id (p : Profile) : p.withoutKey.id = p.id := rfl

theorem Profile.hold?_eq_none {p : Profile} : p.hold? = none ↔ p.holds = [] := by
  simp [Profile.hold?]

/-! ## Staging -/

namespace Transaction

theorem mem_replace_self (p : Profile) (rows : List Profile) : p ∈ replace p rows := by
  induction rows with
  | nil => simp [replace]
  | cons r rows ih => unfold replace; split <;> simp [ih]

theorem mem_of_mem_replace {p q : Profile} {rows : List Profile} (h : q ∈ replace p rows) :
    q = p ∨ q ∈ rows := by
  induction rows with
  | nil => simpa [replace] using h
  | cons r rows ih =>
    unfold replace at h; split at h
    · rcases List.mem_cons.1 h with rfl | h
      · exact Or.inl rfl
      · exact Or.inr (List.mem_cons_of_mem _ h)
    · rcases List.mem_cons.1 h with rfl | h
      · exact Or.inr List.mem_cons_self
      · exact (ih h).imp id (List.mem_cons_of_mem _)

theorem mem_replace_of_ne {p q : Profile} (h : q.id ≠ p.id) {rows : List Profile} (hq : q ∈ rows) :
    q ∈ replace p rows := by
  induction rows with
  | nil => cases hq
  | cons r rows ih =>
    unfold replace; split
    · rename_i hr
      rcases List.mem_cons.1 hq with rfl | hq
      exacts [absurd hr h, List.mem_cons_of_mem _ hq]
    · rcases List.mem_cons.1 hq with rfl | hq
      exacts [List.mem_cons_self, List.mem_cons_of_mem _ (ih hq)]

theorem distinct_replace (p : Profile) {rows : List Profile} (h : DistinctIds rows) :
    DistinctIds (replace p rows) := by
  induction rows with
  | nil => simp [replace, DistinctIds]
  | cons r rows ih =>
    obtain ⟨hr, hrows⟩ := List.pairwise_cons.1 h
    unfold replace; split
    · rename_i e
      exact List.pairwise_cons.2 ⟨fun q hq => e ▸ hr q hq, hrows⟩
    · rename_i e
      refine List.pairwise_cons.2 ⟨fun q hq => ?_, ih hrows⟩
      rcases mem_of_mem_replace hq with rfl | hq
      exacts [e, hr q hq]

end Transaction

/-! ## Writing -/

namespace Registry

/-- The rows are in the ascending order of their numbers. -/
def Ordered (rows : List Profile) : Prop :=
  rows.Pairwise fun p q => p.id.number < q.id.number

theorem Ordered.distinct {rows : List Profile} (h : Ordered rows) : DistinctIds rows :=
  h.imp fun hpq e => by rw [e] at hpq; exact absurd hpq (UInt64.lt_irrefl _)

theorem mem_place_self (p : Profile) (rows : List Profile) : p ∈ place p rows := by
  induction rows with
  | nil => simp [place]
  | cons r rows ih => unfold place; split <;> (try split) <;> simp [ih]

theorem mem_of_mem_place {p q : Profile} {rows : List Profile} (h : q ∈ place p rows) :
    q = p ∨ q ∈ rows := by
  induction rows with
  | nil => simpa [place] using h
  | cons r rows ih =>
    unfold place at h; split at h
    · exact (List.mem_cons.1 h).imp id (List.mem_cons_of_mem _)
    · split at h
      · exact List.mem_cons.1 h
      · rcases List.mem_cons.1 h with rfl | h
        · exact Or.inr List.mem_cons_self
        · exact (ih h).imp id (List.mem_cons_of_mem _)

theorem mem_place_of_ne {p q : Profile} (h : q.id ≠ p.id) {rows : List Profile} (hq : q ∈ rows) :
    q ∈ place p rows := by
  induction rows with
  | nil => cases hq
  | cons r rows ih =>
    unfold place; split
    · rename_i hr
      rcases List.mem_cons.1 hq with rfl | hq
      exacts [absurd hr h, List.mem_cons_of_mem _ hq]
    · split
      · exact List.mem_cons_of_mem _ hq
      · rcases List.mem_cons.1 hq with rfl | hq
        exacts [List.mem_cons_self, List.mem_cons_of_mem _ (ih hq)]

theorem ordered_place (p : Profile) {rows : List Profile} (h : Ordered rows) :
    Ordered (place p rows) := by
  induction rows with
  | nil => simp [place, Ordered]
  | cons r rows ih =>
    obtain ⟨hr, hrows⟩ := List.pairwise_cons.1 h
    unfold place; split
    · rename_i e
      exact List.pairwise_cons.2 ⟨fun q hq => e ▸ hr q hq, hrows⟩
    · rename_i e
      split
      · rename_i hlt
        refine List.pairwise_cons.2 ⟨fun q hq => ?_, h⟩
        rcases List.mem_cons.1 hq with rfl | hq
        exacts [hlt, UInt64.lt_trans hlt (hr q hq)]
      · rename_i hle
        have hne : r.id.number ≠ p.id.number := fun e' => e (by cases hr : r.id; cases hp : p.id; simp_all)
        refine List.pairwise_cons.2 ⟨fun q hq => ?_, ih hrows⟩
        rcases mem_of_mem_place hq with rfl | hq
        exacts [UInt64.lt_of_le_of_ne (UInt64.not_lt.1 hle) hne, hr q hq]

/-- A written row stands at the place of its number. -/
theorem mem_place {p q : Profile} {rows : List Profile} (h : Ordered rows) :
    q ∈ place p rows ↔ q = p ∨ (q ∈ rows ∧ q.id ≠ p.id) := by
  constructor
  · intro hq
    by_cases e : q.id = p.id
    · exact Or.inl ((ordered_place p h).distinct.eq_of_id hq (mem_place_self p rows) e)
    · rcases mem_of_mem_place hq with rfl | hq'
      exacts [absurd rfl e, Or.inr ⟨hq', e⟩]
  · rintro (rfl | ⟨hq, e⟩)
    exacts [mem_place_self _ _, mem_place_of_ne e hq]

/-- A row with a new number comes to the others. -/
theorem place_perm {p : Profile} {rows : List Profile} (h : ∀ q ∈ rows, q.id ≠ p.id) :
    (place p rows).Perm (p :: rows) := by
  induction rows with
  | nil => simp [place]
  | cons r rows ih =>
    unfold place
    rw [if_neg (h r List.mem_cons_self)]
    split
    · exact .refl _
    · exact ((ih fun q hq => h q (List.mem_cons_of_mem _ hq)).cons r).trans (.swap _ _ _)

/-- A row by a new key is the only one by that key. -/
theorem filter_place {p : Profile} {rows : List Profile} (h : ∀ q ∈ rows, q.key ≠ p.key) :
    (place p rows).filter (·.key == p.key) = [p] := by
  have others : ∀ {rows : List Profile}, (∀ q ∈ rows, q.key ≠ p.key) →
      rows.filter (·.key == p.key) = [] := by
    intro rows h
    simpa [List.filter_eq_nil_iff] using h
  induction rows with
  | nil => simp [place]
  | cons r rows ih =>
    obtain ⟨hr, hrows⟩ := List.forall_mem_cons.1 h
    unfold place; split
    · rw [List.filter_cons_of_pos (by simp), others hrows]
    · split
      · rw [List.filter_cons_of_pos (by simp), others h]
      · rw [List.filter_cons_of_neg (by simpa using hr), ih hrows]

/-- The rows once those of a transaction are written. -/
def written (pending rows : List Profile) : List Profile :=
  pending.foldl (fun rows p => place p rows) rows

theorem ordered_written (pending : List Profile) {rows : List Profile} (h : Ordered rows) :
    Ordered (written pending rows) := by
  induction pending generalizing rows with
  | nil => exact h
  | cons p pending ih => exact ih (ordered_place p h)

/-- The rows of a transaction take the places of those with their numbers; all others stay. -/
theorem mem_written {q : Profile} {pending rows : List Profile} (hp : DistinctIds pending)
    (h : Ordered rows) :
    q ∈ written pending rows ↔ q ∈ pending ∨ (q ∈ rows ∧ ∀ p ∈ pending, q.id ≠ p.id) := by
  induction pending generalizing rows with
  | nil => simp [written]
  | cons p pending ih =>
    obtain ⟨hpp, hp'⟩ := List.pairwise_cons.1 hp
    change q ∈ written pending (place p rows) ↔ _
    rw [ih hp' (ordered_place p h), mem_place h]
    constructor
    · rintro (hq | ⟨rfl | ⟨hq, e⟩, hall⟩)
      · exact Or.inl (List.mem_cons_of_mem _ hq)
      · exact Or.inl List.mem_cons_self
      · exact Or.inr ⟨hq, List.forall_mem_cons.2 ⟨e, hall⟩⟩
    · rintro (hq | ⟨hq, hall⟩)
      · rcases List.mem_cons.1 hq with rfl | hq
        · exact Or.inr ⟨Or.inl rfl, hpp⟩
        · exact Or.inl hq
      · obtain ⟨e, hall⟩ := List.forall_mem_cons.1 hall
        exact Or.inr ⟨Or.inr ⟨hq, e⟩, hall⟩

/-! ## Reading -/

theorem mem_of_find? {r : Registry} {id : ProfileId} {p : Profile} (h : r.find? id = some p) :
    p ∈ r.rows ∧ p.id = id :=
  ⟨List.mem_of_find?_eq_some h, by simpa using List.find?_some h⟩

theorem find?_eq_some_iff {r : Registry} (h : Ordered r.rows) {id : ProfileId} {p : Profile} :
    r.find? id = some p ↔ p ∈ r.rows ∧ p.id = id := by
  refine ⟨mem_of_find?, ?_⟩
  rintro ⟨hp, rfl⟩
  cases e : r.find? p.id with
  | none => exact absurd (List.find?_eq_none.1 e p hp) (by simp)
  | some q =>
    obtain ⟨hq, hid⟩ := mem_of_find? e
    rw [h.distinct.eq_of_id hq hp hid]

theorem find?_eq_none_iff {r : Registry} {id : ProfileId} :
    r.find? id = none ↔ ∀ p ∈ r.rows, p.id ≠ id := by
  simp [find?]

theorem taken_iff {key : IdempotencyKey} {rows : List Profile} :
    taken key rows = true ↔ ∃ p ∈ rows, p.key = key := by
  simp [taken]

theorem taken_eq_false_iff {key : IdempotencyKey} {rows : List Profile} :
    taken key rows = false ↔ ∀ p ∈ rows, p.key ≠ key := by
  simp [taken]

theorem clashes_iff {r : Registry} {p : Profile} :
    r.clashes p = true ↔ ∃ q ∈ r.rows, q.id ≠ p.id ∧ q.key = p.key := by
  simp [clashes]

/-! ## Creating and committing -/

/-- The failure that creating a profile is made to end in. -/
def createFault : StoreFault := .backend "injected create failure"

/-- The failure that committing is made to end in. -/
def commitFault : StoreFault := .backend "injected commit failure"

/-- A profile is created under the next number, by a key that neither the registry nor the
    transaction has. -/
theorem create_ok {r r' : Registry} {t t' : Transaction} {d : Draft} {p : Profile}
    (h : r.create t d = .ok (p, r', t')) :
    (∀ q ∈ r.rows, q.key ≠ d.key) ∧ (∀ q ∈ t.pending, q.key ≠ d.key) ∧
      p = Profile.ofDraft ⟨r.nextId⟩ d r.now ∧ r' = { r with nextId := r.nextId + 1 } ∧
      t' = t.stage p := by
  unfold create at h
  split at h
  · cases h
  · split at h
    · cases h
    · rename_i htaken
      cases h
      simp only [Bool.or_eq_true, not_or, Bool.not_eq_true] at htaken
      exact ⟨taken_eq_false_iff.1 htaken.1, taken_eq_false_iff.1 htaken.2, rfl, rfl, rfl⟩

theorem create_eq {r : Registry} {t : Transaction} {d : Draft} (hf : r.failCreates = false)
    (hr : ∀ q ∈ r.rows, q.key ≠ d.key) (ht : ∀ q ∈ t.pending, q.key ≠ d.key) :
    r.create t d = .ok (Profile.ofDraft ⟨r.nextId⟩ d r.now, { r with nextId := r.nextId + 1 },
      t.stage (Profile.ofDraft ⟨r.nextId⟩ d r.now)) := by
  simp [create, hf, taken_eq_false_iff.2 hr, taken_eq_false_iff.2 ht]

/-- Creating a profile is refused for its key, or made to fail. -/
theorem create_error {r : Registry} {t : Transaction} {d : Draft} {e : StoreFault}
    (h : r.create t d = .error e) :
    (r.failCreates = true ∧ e = createFault) ∨
      ((∃ q ∈ r.rows ++ t.pending, q.key = d.key) ∧ e = .duplicate d.key.text) := by
  unfold create at h
  split at h
  · rename_i hf
    cases h; exact Or.inl ⟨hf, rfl⟩
  · split at h
    · rename_i htaken
      cases h
      rw [Bool.or_eq_true, taken_iff, taken_iff] at htaken
      refine Or.inr ⟨?_, rfl⟩
      rcases htaken with ⟨q, hq, e⟩ | ⟨q, hq, e⟩
      exacts [⟨q, List.mem_append_left _ hq, e⟩, ⟨q, List.mem_append_right _ hq, e⟩]
    · cases h

/-- A commit writes all the rows of the transaction, none of which has the key of another row. -/
theorem commit_ok {r r' : Registry} {t : Transaction} (h : r.commit t = .ok r') :
    (∀ p ∈ t.pending, ∀ q ∈ r.rows, q.id ≠ p.id → q.key ≠ p.key) ∧
      r' = { r with rows := written t.pending r.rows } := by
  unfold commit at h
  split at h
  · cases h
  · split at h
    · cases h
    · rename_i hnone
      cases h
      refine ⟨fun p hp q hq hid hkey => ?_, rfl⟩
      exact List.find?_eq_none.1 hnone p hp (clashes_iff.2 ⟨q, hq, hid, hkey⟩)

theorem commit_eq {r : Registry} {t : Transaction} (hf : r.failCommits = false)
    (h : ∀ p ∈ t.pending, ∀ q ∈ r.rows, q.id ≠ p.id → q.key ≠ p.key) :
    r.commit t = .ok { r with rows := written t.pending r.rows } := by
  have hnone : t.pending.find? r.clashes = none := by
    rw [List.find?_eq_none]
    intro p hp hc
    obtain ⟨q, hq, hid, hkey⟩ := clashes_iff.1 hc
    exact h p hp q hq hid hkey
  simp [commit, hf, hnone, written]

/-- A commit is refused for a key that another row has, or made to fail. -/
theorem commit_error {r : Registry} {t : Transaction} {e : StoreFault} (h : r.commit t = .error e) :
    (r.failCommits = true ∧ e = commitFault) ∨
      (∃ p ∈ t.pending, (∃ q ∈ r.rows, q.id ≠ p.id ∧ q.key = p.key) ∧ e = .duplicate p.key.text) := by
  unfold commit at h
  split at h
  · rename_i hf
    cases h; exact Or.inl ⟨hf, rfl⟩
  · split at h
    · rename_i p hp
      cases h
      exact Or.inr ⟨p, List.mem_of_find?_eq_some hp, clashes_iff.1 (List.find?_some hp), rfl⟩
    · cases h

end Registry

end Proofing
