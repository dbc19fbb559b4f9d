import Proofing.PersonalKey
import Proofing.Proofs.Text.Case
/-
  Proofing — which texts are personal keys.

  * `Formed` is the shape of a key, without a word of how it is looked for: groups
    with hyphens between them.  It is what is asked of a text (`isWellFormed_iff`).
  * A text is read if, trimmed and raised, it has this shape, and the key is that
    text (`exists_parse_iff`, `parse_eq_ok_iff`); so texts that are alike are read
    alike (`parse_of_alike`).
  * A key is the key of its own text (`parse_text`), and of every text that a user
    may type for it (`IsTyped`, `parse_of_isTyped`).
-/
namespace Proofing.PersonalKey
variable {cs : List Char} {c : Char} {raw : String} {k : PersonalKey}

/-! ## Groups -/

theorem groups_eq_splitOn (cs : List Char) : groups cs = cs.splitOn '-' := by
  induction cs with
  | nil => rfl
  | cons c cs ih =>
    rw [List.splitOn_cons_eq_if_modifyHead]
    by_cases hc : c = '-'
    · subst hc
      exact congrArg ([] :: ·) ih
    · rw [groups_cons hc, if_neg (by simpa using hc), ih]
      cases h : cs.splitOn '-' with
      | nil => exact absurd h (List.splitOn_ne_nil '-' cs)
      | cons g gs => rfl

theorem intercalate_groups (cs : List Char) : ['-'].intercalate (groups cs) = cs := by
  rw [groups_eq_splitOn, List.intercalate_splitOn]

theorem groups_intercalate {gs : List (List Char)} (nonempty : gs ≠ [])
    (plain : ∀ g ∈ gs, '-' ∉ g) : groups (['-'].intercalate gs) = gs := by
  rw [groups_eq_splitOn, List.splitOn_intercalate '-' plain nonempty]

/-- The characters of a joined text are those of its groups, and a hyphen if there is more than one
    of them. -/
theorem mem_intercalate {gs : List (List Char)} :
    c ∈ ['-'].intercalate gs ↔ (∃ g ∈ gs, c ∈ g) ∨ c = '-' ∧ 1 < gs.length := by
  induction gs with
  | nil => simp
  | cons g gs ih =>
    cases gs with
    | nil => simp
    | cons g' gs =>
      have more : 1 < (g :: g' :: gs).length := by simp
      have first : (∃ l ∈ g :: g' :: gs, c ∈ l) ↔ c ∈ g ∨ ∃ l ∈ g' :: gs, c ∈ l := by simp
      rw [List.intercalate_cons_cons, List.mem_append, List.mem_append, ih, List.mem_singleton,
        first, and_iff_left more]
      constructor
      · rintro ((h | h) | h | h)
        exacts [Or.inl (Or.inl h), Or.inr h, Or.inl (Or.inr h), Or.inr h.1]
      · rintro ((h | h) | h)
        exacts [Or.inl (Or.inl h), Or.inr (Or.inl h), Or.inl (Or.inr h)]

/-! ## The shape of a key -/

theorem isMark_iff : isMark c = true ↔ '0' ≤ c ∧ c ≤ '9' ∨ 'A' ≤ c ∧ c ≤ 'Z' := by
  simp [isMark]

theorem range_of_isMark (h : isMark c = true) :
    0x30 ≤ c.toNat ∧ c.toNat ≤ 0x39 ∨ 0x41 ≤ c.toNat ∧ c.toNat ≤ 0x5A := by
  simpa [isMark, Char.le_def, UInt32.le_iff_toNat_le] using h

/-- Four groups of four digits or capital letters, with hyphens between them. -/
inductive Formed : List Char → Prop where
  | intro {gs : List (List Char)} (four : gs.length = 4) (sizes : ∀ g ∈ gs, g.length = 4)
    (marks : ∀ g ∈ gs, ∀ c ∈ g, '0' ≤ c ∧ c ≤ '9' ∨ 'A' ≤ c ∧ c ≤ 'Z') :
    Formed (['-'].intercalate gs)

theorem isWellFormed_iff : isWellFormed cs = true ↔ Formed cs := by
  simp only [isWellFormed, Bool.and_eq_true, List.all_eq_true, beq_iff_eq, isMark_iff]
  constructor
  · rintro ⟨four, each⟩
    rw [← intercalate_groups cs]
    exact ⟨four, fun g hg => (each g hg).1, fun g hg => (each g hg).2⟩
  · intro h
    cases h with
    | @intro gs four sizes marks =>
      have plain : ∀ g ∈ gs, '-' ∉ g := fun g hg hc => absurd (marks g hg '-' hc) (by decide)
      have nonempty : gs ≠ [] := by rintro rfl; cases four
      rw [groups_intercalate nonempty plain]
      exact ⟨four, fun g hg => ⟨sizes g hg, marks g hg⟩⟩

theorem formed (k : PersonalKey) : Formed k.text.toList :=
  isWellFormed_iff.1 k.wellFormed

/-- Neither trimming nor raising changes a character of a key. -/
theorem Formed.plain (h : Formed cs) (hc : c ∈ cs) : Text.isBlank c = false ∧ c.toUpper = c := by
  obtain ⟨-, -, marks⟩ := h
  rcases mem_intercalate.1 hc with ⟨g, hg, hc⟩ | ⟨rfl, -⟩
  · have range := range_of_isMark (isMark_iff.2 (marks g hg c hc))
    constructor
    · simp only [Text.isBlank, Bool.or_eq_false_iff, Bool.and_eq_false_iff,
        decide_eq_false_iff_not, beq_eq_false_iff_ne]
      omega
    · have upper := Text.toNat_toUpper c
      rw [if_neg (by omega)] at upper
      exact Char.toNat_inj.1 upper
  · decide

/-! ## What is read -/

theorem text_inj {k k' : PersonalKey} : k.text = k'.text ↔ k = k' := by
  cases k
  cases k'
  simp

theorem parse_of_formed (h : Formed (Text.raise (Text.trim raw.toList))) : ∃ k : PersonalKey,
    k.text = String.ofList (Text.raise (Text.trim raw.toList)) ∧ parse raw = .ok k := by
  have shape : isWellFormed (String.ofList (Text.raise (Text.trim raw.toList))).toList = true := by
    rwa [String.toList_ofList, isWellFormed_iff]
  refine ⟨⟨_, shape⟩, rfl, ?_⟩
  simp only [parse, dif_pos shape]

theorem parse_of_not_formed (h : ¬ Formed (Text.raise (Text.trim raw.toList))) :
    parse raw = .error .personalKey := by
  have shape : ¬ isWellFormed (String.ofList (Text.raise (Text.trim raw.toList))).toList = true := by
    rwa [String.toList_ofList, isWellFormed_iff]
  simp only [parse, dif_neg shape]

/-- A key is what is left of the text, trimmed and raised. -/
theorem parse_eq_ok_iff :
    parse raw = .ok k ↔ k.text = String.ofList (Text.raise (Text.trim raw.toList)) := by
  by_cases shape : Formed (Text.raise (Text.trim raw.toList))
  · obtain ⟨k', text, h⟩ := parse_of_formed shape
    rw [h, ← text, Except.ok.injEq, text_inj, eq_comm]
  · rw [parse_of_not_formed shape]
    refine ⟨nofun, fun text => absurd k.formed ?_⟩
    rwa [text, String.toList_ofList]

theorem exists_parse_iff :
    (∃ k, parse raw = .ok k) ↔ Formed (Text.raise (Text.trim raw.toList)) := by
  constructor
  · rintro ⟨k, h⟩
    have shape := k.formed
    rwa [parse_eq_ok_iff.1 h, String.toList_ofList] at shape
  · intro h
    obtain ⟨k, -, hk⟩ := parse_of_formed h
    exact ⟨k, hk⟩

theorem parse_eq_error_iff {e : FormatError} : parse raw = .error e ↔
    e = .personalKey ∧ ¬ Formed (Text.raise (Text.trim raw.toList)) := by
  by_cases shape : Formed (Text.raise (Text.trim raw.toList))
  · obtain ⟨k, -, h⟩ := parse_of_formed shape
    simp [h, shape]
  · simp [parse_of_not_formed shape, shape, eq_comm]

/-- Texts that differ in nothing but case and blanks around them are read, or refused, alike. -/
theorem parse_of_alike {raw' : String} (h : Text.Alike raw.toList raw'.toList) :
    parse raw = parse raw' := by
  rw [parse, parse, h.raise_trim]

/-! ## Keys and their texts -/

/-- A key is the key of its text. -/
theorem parse_text (k : PersonalKey) : parse k.text = .ok k := by
  have trimmed : Text.trim k.text.toList = k.text.toList :=
    Text.trim_of_plain fun c hc => (k.formed.plain hc).1
  have raised : Text.raise k.text.toList = k.text.toList :=
    (List.map_congr_left fun c hc => (k.formed.plain hc).2).trans (List.map_id _)
  rw [parse_eq_ok_iff, trimmed, raised, String.ofList_toList]

/-- The text is that of the key but for the case of its letters and for blanks around it. -/
def IsTyped (k : PersonalKey) (raw : String) : Prop :=
  ∃ before typed after, raw.toList = before ++ typed ++ after ∧
    (∀ c ∈ before, Text.isBlank c = true) ∧ (∀ c ∈ after, Text.isBlank c = true) ∧
    Text.lower typed = Text.lower k.text.toList

/-- A key is recognised however it is typed. -/
theorem parse_of_isTyped (h : k.IsTyped raw) : parse raw = .ok k := by
  obtain ⟨before, typed, after, hraw, hb, ha, case⟩ := h
  have alike : Text.Alike raw.toList k.text.toList := by
    simpa [hraw] using Text.Alike.intro case hb ha (List.forall_mem_nil _) (List.forall_mem_nil _)
  rw [parse_of_alike alike, parse_text]

end Proofing.PersonalKey
