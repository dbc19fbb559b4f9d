import Mathlib.Data.List.TakeWhile
import Proofing.Text.Blank
/-
  Proofing — what trimming leaves of a text.

  `Trims` says of two texts that one is the other without the blanks around it.
  There is no other such text than the one that `trim` gives (`trim_eq_iff`); in
  it, nothing but blanks is lost (`filter_trim`).
-/
namespace Proofing.Text

/-- One text is the other without the blanks around it. -/
structure Trims (cs t : List Char) : Prop where
  within : ∃ before after, cs = before ++ t ++ after ∧ (∀ c ∈ before, isBlank c = true) ∧
    ∀ c ∈ after, isBlank c = true
  first : ∀ c ∈ t.head?, isBlank c = false
  last : ∀ c ∈ t.getLast?, isBlank c = false

variable {cs t : List Char}

theorem dropWhile_of_first (h : ∀ c ∈ cs.head?, isBlank c = false) : cs.dropWhile isBlank = cs := by
  cases cs with
  | nil => rfl
  | cons c cs => exact List.dropWhile_cons_of_neg (by simp [h c rfl])

theorem first_dropWhile (cs : List Char) :
    ∀ c ∈ (cs.dropWhile isBlank).head?, isBlank c = false := by
  intro c hc
  have := List.head?_dropWhile_not isBlank cs
  rw [hc] at this
  simpa using this

theorem Trims.trim_eq (h : Trims cs t) : trim cs = t := by
  obtain ⟨⟨before, after, rfl, hb, ha⟩, first, last⟩ := h
  rw [trim, List.append_assoc, List.dropWhile_append_of_pos hb]
  cases t with
  | nil => simp [List.dropWhile_eq_nil_iff.2 ha]
  | cons c cs =>
    have ha' : ∀ c ∈ after.reverse, isBlank c = true := fun c hc => ha c (List.mem_reverse.1 hc)
    have front : (c :: cs ++ after).dropWhile isBlank = c :: cs ++ after := dropWhile_of_first first
    rw [front, List.reverse_append, List.dropWhile_append_of_pos ha', dropWhile_of_first,
      List.reverse_reverse]
    rwa [List.head?_reverse]

theorem trims_trim (cs : List Char) : Trims cs (trim cs) := by
  generalize hd : cs.dropWhile isBlank = d
  have front : cs = cs.takeWhile isBlank ++ d := by rw [← hd, List.takeWhile_append_dropWhile]
  have back : d = trim cs ++ (d.reverse.takeWhile isBlank).reverse := by
    rw [trim, hd, ← List.reverse_append, List.takeWhile_append_dropWhile, List.reverse_reverse]
  constructor
  case within =>
    refine ⟨cs.takeWhile isBlank, (d.reverse.takeWhile isBlank).reverse, ?_, ?_, ?_⟩
    · rw [List.append_assoc, ← back, ← front]
    · exact fun c hc => List.mem_takeWhile_imp hc
    · exact fun c hc => List.mem_takeWhile_imp (List.mem_reverse.1 hc)
  case first =>
    -- what is left begins as it did before the blanks at the end were dropped
    intro c hc
    refine first_dropWhile cs c ?_
    rw [hd, back, List.head?_append, Option.mem_def.1 hc]
    rfl
  case last =>
    intro c hc
    rw [trim, List.getLast?_reverse] at hc
    exact first_dropWhile _ c hc

/-- **Trimming leaves what is between the blanks.** -/
theorem trim_eq_iff : trim cs = t ↔ Trims cs t := by
  constructor
  · rintro rfl
    exact trims_trim cs
  · exact Trims.trim_eq

theorem exists_trims {P : List Char → Prop} : (∃ t, Trims cs t ∧ P t) ↔ P (trim cs) := by
  simp only [← trim_eq_iff, exists_eq_left']

theorem trim_of_plain (h : ∀ c ∈ cs, isBlank c = false) : trim cs = cs :=
  trim_eq_iff.2 ⟨⟨[], [], by simp, List.forall_mem_nil _, List.forall_mem_nil _⟩,
    fun c hc => h c (List.mem_of_mem_head? hc), fun c hc => h c (List.mem_of_getLast? hc)⟩

/-- Blanks around a text do not matter. -/
theorem trim_surrounded {before after : List Char} (hb : ∀ c ∈ before, isBlank c = true)
    (ha : ∀ c ∈ after, isBlank c = true) : trim (before ++ cs ++ after) = trim cs := by
  obtain ⟨⟨b, a, hcs, hb', ha'⟩, first, last⟩ := trims_trim cs
  refine trim_eq_iff.2 ⟨⟨before ++ b, a ++ after, ?_, ?_, ?_⟩, first, last⟩
  · calc before ++ cs ++ after = before ++ (b ++ trim cs ++ a) ++ after := by rw [← hcs]
      _ = before ++ b ++ trim cs ++ (a ++ after) := by simp only [List.append_assoc]
  · exact List.forall_mem_append.2 ⟨hb, hb'⟩
  · exact List.forall_mem_append.2 ⟨ha', ha⟩

/-- Trimming does not look at characters but for the blanks. -/
theorem map_trim {f : Char → Char} (hf : ∀ c, isBlank (f c) = isBlank c) (cs : List Char) :
    (trim cs).map f = trim (cs.map f) := by
  have same : isBlank ∘ f = isBlank := funext hf
  rw [trim, trim, List.dropWhile_map, same, ← List.map_reverse, List.dropWhile_map, same,
    List.map_reverse]

/-- What a text begins with stays, if it has no blanks. -/
theorem trim_append_of_plain {front : List Char} (cs : List Char)
    (plain : ∀ c ∈ front, isBlank c = false) (nonempty : front ≠ []) :
    ∃ rest after, trim (front ++ cs) = front ++ rest ∧ cs = rest ++ after ∧
      ∀ c ∈ after, isBlank c = true := by
  obtain ⟨before, after, h, hb, ha⟩ := (trims_trim (front ++ cs)).within
  generalize trim (front ++ cs) = t at h ⊢
  cases before with
  | cons b before =>
    obtain ⟨c, front, rfl⟩ := List.exists_cons_of_ne_nil nonempty
    have hbc : c = b := (List.cons.inj h).1
    have blank := hb b List.mem_cons_self
    rw [← hbc, plain c List.mem_cons_self] at blank
    cases blank
  | nil =>
    rw [List.nil_append] at h
    rcases List.append_eq_append_iff.1 h with ⟨rest, rfl, hcs⟩ | ⟨m, hfront, hafter⟩
    · exact ⟨rest, after, rfl, hcs, ha⟩
    · -- the blanks at the end cannot reach into the front
      have none : m = [] := by
        refine List.eq_nil_iff_forall_not_mem.2 fun c hc => ?_
        have blank := ha c (hafter ▸ List.mem_append_left _ hc)
        rw [plain c (hfront ▸ List.mem_append_right _ hc)] at blank
        cases blank
      subst none
      rw [List.append_nil] at hfront
      rw [List.nil_append] at hafter
      subst hfront hafter
      exact ⟨[], after, (List.append_nil _).symm, rfl, ha⟩

/-- Trimming takes nothing away but blanks. -/
theorem filter_trim {p : Char → Bool} (hp : ∀ c, isBlank c = true → p c = false) (cs : List Char) :
    (trim cs).filter p = cs.filter p := by
  obtain ⟨before, after, hcs, hb, ha⟩ := (trims_trim cs).within
  have blanks {bs : List Char} (h : ∀ c ∈ bs, isBlank c = true) : bs.filter p = [] :=
    List.filter_eq_nil_iff.2 fun c hc => by simp [hp c (h c hc)]
  calc (trim cs).filter p = (before ++ trim cs ++ after).filter p := by
        rw [List.filter_append, List.filter_append, blanks hb, blanks ha, List.append_nil,
          List.nil_append]
    _ = cs.filter p := by rw [← hcs]

end Proofing.Text
