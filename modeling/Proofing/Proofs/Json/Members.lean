import Mathlib.Data.List.Nodup
import Mathlib.Data.String.Basic
import Mathlib.Tactic.Common
import Proofing.Json.Basic
/-
  Proofing — what is found among members.

  * `find?_ofList`: an object holds the members that it was made of, provided
    that their keys differ, and no others (`mem_of_mem_ofList`);
  * `ofList_ofList`: what an object holds is in the order of the keys, in which it
    would be put into an object again;
  * `there`: of some entries, those that have a value.  The value of an entry is
    found under its key if and only if it has one (`find?_there`).
-/
namespace Proofing.Members

variable {α : Type} {ms : Members α}

theorem find?_eq_none {k : String} (h : k ∉ ms.map (·.1)) : find? k ms = none := by
  induction ms with
  | nil => rfl
  | cons m ms ih =>
    simp only [List.map_cons, List.mem_cons, not_or] at h
    rw [find?, if_neg (Ne.symm h.1), ih h.2]

theorem find?_of_mem (distinct : (ms.map (·.1)).Nodup) {k : String} {v : α} (h : (k, v) ∈ ms) :
    find? k ms = some v := by
  induction ms with
  | nil => cases h
  | cons m ms ih =>
    obtain ⟨hnew, hrest⟩ := List.nodup_cons.1 distinct
    rcases List.mem_cons.1 h with rfl | h
    · simp [find?]
    · have hne : m.1 ≠ k := fun e => hnew (List.mem_map.2 ⟨(k, v), h, e.symm⟩)
      rw [find?, if_neg hne, ih hrest h]

theorem mem_of_find? {k : String} {v : α} (h : find? k ms = some v) : (k, v) ∈ ms := by
  induction ms with
  | nil => cases h
  | cons m ms ih =>
    rw [find?] at h
    split at h
    · rename_i hk
      cases h
      subst hk
      exact List.mem_cons_self
    · exact List.mem_cons_of_mem _ (ih h)

theorem find?_filter {p : String → Bool} {k : String} (h : p k = true) :
    find? k (ms.filter fun m => p m.1) = find? k ms := by
  induction ms with
  | nil => rfl
  | cons m ms ih =>
    by_cases hm : m.1 = k
    · rw [List.filter_cons_of_pos (by simpa [hm] using h), find?, find?, if_pos hm, if_pos hm]
    · rw [find?, if_neg hm, ← ih, List.filter_cons]
      split
      · rw [find?, if_neg hm]
      · rfl

/-! ## Objects -/

theorem mem_of_mem_put {k : String} {v : α} {m : String × α} (h : m ∈ put k v ms) :
    m = (k, v) ∨ m ∈ ms := by
  induction ms with
  | nil => simpa [put] using h
  | cons m' ms ih =>
    unfold put at h
    split at h
    · simp only [List.mem_cons] at h ⊢
      tauto
    · split at h
      · simpa using h
      · rcases List.mem_cons.1 h with rfl | h
        · exact Or.inr List.mem_cons_self
        · exact (ih h).imp_right (List.mem_cons_of_mem _)

/-- An object holds nothing but what it was made of. -/
theorem mem_of_mem_ofList {m : String × α} (h : m ∈ ofList ms) : m ∈ ms := by
  have all : ∀ (ms acc : Members α), m ∈ ms.foldl (fun acc m => put m.1 m.2 acc) acc →
      m ∈ ms ∨ m ∈ acc := by
    intro ms
    induction ms with
    | nil => exact fun acc h => Or.inr h
    | cons m' ms ih =>
      intro acc h
      rcases ih _ h with h | h
      · exact Or.inl (List.mem_cons_of_mem _ h)
      · rcases mem_of_mem_put h with rfl | h
        · exact Or.inl List.mem_cons_self
        · exact Or.inr h
  exact (all ms [] h).resolve_right List.not_mem_nil

/-- An object holds what it was made of. -/
theorem find?_ofList (distinct : (ms.map (·.1)).Nodup) (k : String) :
    find? k (ofList ms) = find? k ms := by
  have all : ∀ (ms acc : Members α), (ms.map (·.1)).Nodup →
      find? k (ms.foldl (fun acc m => put m.1 m.2 acc) acc) = (find? k ms).or (find? k acc) := by
    intro ms
    induction ms with
    | nil => intro acc _; rfl
    | cons m ms ih =>
      intro acc distinct
      obtain ⟨hnew, hrest⟩ := List.nodup_cons.1 distinct
      rw [List.foldl_cons, ih _ hrest, find?_put]
      by_cases hk : k = m.1
      · subst hk
        rw [find?_eq_none hnew, find?]
        simp
      · rw [if_neg hk, find?, if_neg (Ne.symm hk)]
  simpa [find?, ofList] using all ms [] distinct

/-! ## Order -/

/-- The members are in the order of their keys, one for each key. -/
def Ordered (ms : Members α) : Prop :=
  ms.Pairwise fun a b => a.1 < b.1

theorem ordered_put {ms : Members α} (h : Ordered ms) (k : String) (v : α) : Ordered (put k v ms) := by
  induction ms with
  | nil => exact List.pairwise_singleton _ _
  | cons m ms ih =>
    obtain ⟨hm, hms⟩ := List.pairwise_cons.1 h
    unfold put
    split
    · rename_i e
      exact List.pairwise_cons.2 ⟨fun b hb => e ▸ hm b hb, hms⟩
    · rename_i hne
      split
      · rename_i hlt
        refine List.pairwise_cons.2 ⟨fun b hb => ?_, h⟩
        rcases List.mem_cons.1 hb with rfl | hb
        exacts [hlt, lt_trans hlt (hm b hb)]
      · rename_i hle
        refine List.pairwise_cons.2 ⟨fun b hb => ?_, ih hms⟩
        rcases mem_of_mem_put hb with rfl | hb
        exacts [lt_of_le_of_ne (not_lt.1 hle) hne, hm b hb]

theorem ordered_ofList (ms : Members α) : Ordered (ofList ms) := by
  have all : ∀ (ms acc : Members α), Ordered acc →
      Ordered (ms.foldl (fun acc m => put m.1 m.2 acc) acc) := by
    intro ms
    induction ms with
    | nil => exact fun acc h => h
    | cons m ms ih => exact fun acc h => ih _ (ordered_put h m.1 m.2)
  exact all ms [] .nil

/-- A key that is greater than all others goes to the end. -/
theorem put_eq_append {k : String} (h : ∀ m ∈ ms, m.1 < k) (v : α) : put k v ms = ms ++ [(k, v)] := by
  induction ms with
  | nil => rfl
  | cons m ms ih =>
    obtain ⟨hm, hms⟩ := List.forall_mem_cons.1 h
    rw [put, if_neg hm.ne, if_neg hm.asymm, ih hms, List.cons_append]

theorem ofList_of_ordered (h : Ordered ms) : ofList ms = ms := by
  have all : ∀ ms acc : Members α, Ordered (acc ++ ms) →
      ms.foldl (fun acc m => put m.1 m.2 acc) acc = acc ++ ms := by
    intro ms
    induction ms with
    | nil => exact fun acc _ => (List.append_nil acc).symm
    | cons m ms ih =>
      intro acc h
      obtain ⟨-, -, hacc⟩ := List.pairwise_append.1 h
      rw [List.foldl_cons, put_eq_append (fun a ha => hacc a ha m List.mem_cons_self)]
      rw [ih (acc ++ [m]) (by rwa [List.append_assoc, List.singleton_append]),
        List.append_assoc, List.singleton_append]
  exact all ms [] h

/-- The members of an object make the same object again. -/
theorem ofList_ofList (ms : Members α) : ofList (ofList ms) = ofList ms :=
  ofList_of_ordered (ordered_ofList ms)

/-! ## Entries with and without a value -/

/-- The entries that have a value. -/
def there (es : List (String × Option α)) : Members α :=
  es.filterMap fun e => e.2.map (e.1, ·)

variable {es : List (String × Option α)}

theorem mem_there {k : String} {v : α} : (k, v) ∈ there es ↔ (k, some v) ∈ es := by
  simp only [there, List.mem_filterMap, Option.map_eq_some_iff, Prod.mk.injEq, Prod.exists]
  constructor
  · rintro ⟨k, v, h, w, rfl, rfl, rfl⟩; exact h
  · intro h; exact ⟨k, some v, h, v, rfl, rfl, rfl⟩

theorem keys_there (es : List (String × Option α)) :
    ((there es).map (·.1)).Sublist (es.map (·.1)) := by
  induction es with
  | nil => exact .slnil
  | cons e es ih =>
    obtain ⟨k, _ | v⟩ := e
    · exact ih.cons k
    · exact ih.cons_cons k

theorem find?_there (distinct : (es.map (·.1)).Nodup) {k : String} {v : Option α}
    (h : (k, v) ∈ es) : find? k (there es) = v := by
  cases v with
  | some v => exact find?_of_mem (distinct.sublist (keys_there es)) (mem_there.2 h)
  | none =>
    refine find?_eq_none fun hk => ?_
    obtain ⟨⟨k', v⟩, hm, rfl⟩ := List.mem_map.1 hk
    -- two entries with one key are the same
    have := List.inj_on_of_nodup_map distinct h (mem_there.1 hm) rfl
    cases this

/-- Both at once: an object that is made of the entries that have a value. -/
theorem find?_ofList_there (distinct : (es.map (·.1)).Nodup) {k : String} {v : Option α}
    (h : (k, v) ∈ es) : find? k (ofList (there es)) = v := by
  rw [find?_ofList (distinct.sublist (keys_there es)), find?_there distinct h]

end Proofing.Members
