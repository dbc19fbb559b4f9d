import Proofing.Proofs.Json.Forms
import Proofing.Proofs.Json.Values
/-
  Proofing — the laws of personal keys.

  * What a text is read as (`Reading`) depends on what is left of it when it is
    trimmed and raised; whether the groups of that are measured in characters or in
    octets makes no difference (`measured_iff`).
  * A key is read again from its text and from its JSON form (`Rereads`).
  * Whatever is drawn, the groups of the marks that were drawn, joined by hyphens,
    are the text of a key (`joined_eq`), and its characters are those that are hard
    to mistake for each other (`mem_alphabet_iff`).
-/
namespace Proofing.PersonalKey
variable {cs g : List Char} {c : Char}

/-! ## Sizes in octets -/

/-- A digit, or a letter in either case. -/
def isAlphanumeric (o : UInt8) : Bool :=
  (0x30 ≤ o && o ≤ 0x39) || (0x41 ≤ o && o ≤ 0x5A) || (0x61 ≤ o && o ≤ 0x7A)

/-- Four groups, each of four octets that are digits or letters. -/
def Measured (cs : List Char) : Prop :=
  (groups cs).length = 4 ∧ ∀ g ∈ groups cs, (Text.octets (String.ofList g)).length = 4 ∧
    ∀ o ∈ Text.octets (String.ofList g), isAlphanumeric o = true

theorem ascii_of_isAlphanumeric {o : UInt8} (h : isAlphanumeric o = true) : o.toNat < 128 := by
  have range : (0x30 ≤ o.toNat ∧ o.toNat ≤ 0x39 ∨ 0x41 ≤ o.toNat ∧ o.toNat ≤ 0x5A) ∨
      0x61 ≤ o.toNat ∧ o.toNat ≤ 0x7A := by
    simpa [isAlphanumeric, UInt8.le_iff_toNat_le] using h
  omega

theorem ascii_of_isMark (h : isMark c = true) : c.toNat < 128 := by
  have range := range_of_isMark h
  omega

/-- In upper case, the letters and digits are the characters of keys. -/
theorem isAlphanumeric_octet (ascii : c.toNat < 128) (raised : c.toUpper = c) :
    isAlphanumeric (UInt8.ofNat c.toNat) = isMark c := by
  revert raised
  refine Text.forall_ascii ?_ c ascii
  decide +kernel

theorem measured_group (raised : ∀ c ∈ g, c.toUpper = c) :
    ((Text.octets (String.ofList g)).length = 4 ∧
        ∀ o ∈ Text.octets (String.ofList g), isAlphanumeric o = true) ↔
      g.length = 4 ∧ ∀ c ∈ g, isMark c = true := by
  have of_ascii (ascii : ∀ c ∈ g, c.toNat < 128) :
      (∀ o ∈ Text.octets (String.ofList g), isAlphanumeric o = true) ↔
        ∀ c ∈ g, isMark c = true := by
    rw [Text.octets_of_ascii ascii, List.forall_mem_map]
    exact forall₂_congr fun c hc => by rw [isAlphanumeric_octet (ascii c hc) (raised c hc)]
  constructor
  · rintro ⟨size, plain⟩
    have ascii := Text.ascii_of_octets fun o ho => ascii_of_isAlphanumeric (plain o ho)
    refine ⟨?_, (of_ascii ascii).1 plain⟩
    rwa [Text.octets_of_ascii ascii, List.length_map] at size
  · rintro ⟨size, marks⟩
    have ascii : ∀ c ∈ g, c.toNat < 128 := fun c hc => ascii_of_isMark (marks c hc)
    refine ⟨?_, (of_ascii ascii).2 marks⟩
    rwa [Text.octets_of_ascii ascii, List.length_map]

/-- In a text in upper case it makes no difference whether octets or characters are counted. -/
theorem measured_iff (raised : ∀ c ∈ cs, c.toUpper = c) : Measured cs ↔ Formed cs := by
  rw [← isWellFormed_iff]
  simp only [isWellFormed, Bool.and_eq_true, List.all_eq_true, beq_iff_eq]
  refine and_congr_right fun _ => forall₂_congr fun g hg => measured_group fun c hc => raised c ?_
  rw [← intercalate_groups cs]
  exact mem_intercalate.2 (Or.inl ⟨g, hg, hc⟩)

/-! ## Drawn keys -/

/-- The group with a number: four marks that were drawn in a row. -/
def drawnGroup (draws : Fin 16 → Fin 32) (i : Fin 4) : List Char :=
  (List.finRange 4).map fun j : Fin 4 => mark (draws ⟨4 * i + j, by omega⟩)

/-- The groups that were drawn, with hyphens between them. -/
def joined (draws : Fin 16 → Fin 32) : String :=
  "-".intercalate ((List.finRange 4).map fun i => String.ofList (drawnGroup draws i))

theorem drawn_eq (draws : Fin 16 → Fin 32) :
    drawn draws = ['-'].intercalate ((List.finRange 4).map (drawnGroup draws)) := rfl

theorem joined_eq (draws : Fin 16 → Fin 32) : joined draws = String.ofList (drawn draws) := by
  have pieces : ((List.finRange 4).map fun i => String.ofList (drawnGroup draws i)).map
      String.toList = (List.finRange 4).map (drawnGroup draws) := by
    rw [List.map_map]
    exact List.map_congr_left fun i _ => String.toList_ofList
  have hyphen : "-".toList = ['-'] := rfl
  refine String.toList_inj.1 ?_
  rw [joined, String.toList_intercalate, pieces, hyphen, String.toList_ofList, drawn_eq]

/-- What is drawn from is the capital letters and digits but for four letters. -/
theorem mem_alphabet_iff : c ∈ alphabet ↔ isMark c = true ∧ c ∉ ['I', 'L', 'O', 'U'] := by
  have marks : alphabet.all isMark = true := by decide +kernel
  by_cases ascii : c.toNat < 128
  · refine Text.forall_ascii ?_ c ascii
    decide +kernel
  · refine ⟨fun h => absurd (ascii_of_isMark (List.all_eq_true.1 marks c h)) ascii, fun h => ?_⟩
    exact absurd (ascii_of_isMark h.1) ascii

theorem mark_mem_alphabet (n : Fin 32) : mark n ∈ alphabet := by
  revert n; decide

theorem mem_alphabet_of_mem_drawnGroup {draws : Fin 16 → Fin 32} {i : Fin 4}
    (h : c ∈ drawnGroup draws i) : c ∈ alphabet := by
  obtain ⟨j, -, rfl⟩ := List.mem_map.1 h
  exact mark_mem_alphabet _

theorem groups_drawn (draws : Fin 16 → Fin 32) :
    groups (drawn draws) = (List.finRange 4).map (drawnGroup draws) := by
  have plain : ∀ g ∈ (List.finRange 4).map (drawnGroup draws), '-' ∉ g := by
    rw [List.forall_mem_map]
    exact fun i _ h => absurd (mem_alphabet_of_mem_drawnGroup h) (by decide)
  rw [drawn_eq, groups_intercalate (by simp) plain]

theorem isIssued_draw (draws : Fin 16 → Fin 32) : (draw draws).isIssued = true := by
  have text : (draw draws).text.toList = drawn draws := String.toList_ofList
  rw [isIssued, text, groups_drawn]
  simp only [List.all_map, List.all_eq_true, Function.comp_apply, decide_eq_true_eq]
  exact fun i _ c hc => mem_alphabet_of_mem_drawnGroup hc

/-! ## The laws -/

/-- What a text is read as. -/
structure Reading (raw : String) : Prop where
  /-- A key is read if what is between the blanks, in upper case, has the shape of a key. -/
  accepts : (∃ k, parse raw = .ok k) ↔ ∃ t, Text.Trims raw.toList t ∧ Formed (Text.raise t)
  /-- The key is that text. -/
  gives (k : PersonalKey) : parse raw = .ok k ↔
    ∃ t, Text.Trims raw.toList t ∧ k.text = String.ofList (Text.raise t)
  /-- Every other text is refused. -/
  refuses (e : FormatError) : parse raw = .error e ↔
    e = .personalKey ∧ ¬ ∃ t, Text.Trims raw.toList t ∧ Formed (Text.raise t)
  /-- Octets may be counted for characters. -/
  measured : (∃ k, parse raw = .ok k) ↔ Measured (Text.raise (Text.trim raw.toList))
  /-- Neither case nor blanks around the text matter, be it read or refused. -/
  alike {raw' : String} (h : Text.Alike raw.toList raw'.toList) : parse raw' = parse raw

theorem reading (raw : String) : Reading raw where
  accepts := by
    rw [Text.exists_trims]
    exact exists_parse_iff
  gives k := by
    rw [Text.exists_trims]
    exact parse_eq_ok_iff
  refuses e := by
    rw [Text.exists_trims]
    exact parse_eq_error_iff
  measured := by
    rw [exists_parse_iff, measured_iff]
    intro c hc
    obtain ⟨d, -, rfl⟩ := List.mem_map.1 hc
    exact Text.toUpper_toUpper d
  alike h := (parse_of_alike h).symm

/-- Where a key was written, it is read again. -/
structure Rereads (k : PersonalKey) : Prop where
  text : parse k.text = .ok k
  decoded : Coded.decode (Coded.encode k) = .ok k
  parsed : ∃ j, Json.parse? (Json.compact (Coded.encode k)) = some j ∧ Coded.decode j = .ok k

theorem reread (k : PersonalKey) : Rereads k where
  text := k.parse_text
  decoded := Coded.decode_encode k
  parsed := ⟨_, Json.parse?_compact (Json.legible_str _ _), Coded.decode_encode k⟩

/-- What draws make. -/
structure Issues (draws : Fin 16 → Fin 32) : Prop where
  /-- The groups that were drawn are read as the key, and the key is their text. -/
  parsed : parse (joined draws) = .ok (draw draws)
  text : (draw draws).text = joined draws
  issued : (draw draws).isIssued = true
  /-- There are capital letters and digits in it, but none of four letters. -/
  plain : ∀ c ∈ (joined draws).toList,
    c = '-' ∨ isMark c = true ∧ c ∉ ['I', 'L', 'O', 'U']

theorem issues (draws : Fin 16 → Fin 32) : Issues draws where
  parsed := by
    rw [joined_eq]
    exact (draw draws).parse_text
  text := (joined_eq draws).symm
  issued := isIssued_draw draws
  plain c hc := by
    rw [joined_eq, String.toList_ofList, drawn_eq] at hc
    rcases mem_intercalate.1 hc with ⟨g, hg, hc⟩ | ⟨rfl, -⟩
    · obtain ⟨i, -, rfl⟩ := List.mem_map.1 hg
      exact Or.inr (mem_alphabet_iff.1 (mem_alphabet_of_mem_drawnGroup hc))
    · exact Or.inl rfl

/-- **The laws of personal keys**: which texts are read, and as which key; that a key is read again
    wherever it was written; and that whatever is drawn is a key. -/
theorem parse_lawful : (∀ raw, Reading raw) ∧ (∀ k, Rereads k) ∧ ∀ draws, Issues draws :=
  ⟨reading, reread, issues⟩

/-- A key in small letters, with a line break and a blank beyond ASCII around it. -/
theorem parse_lawful_typed :
    let raw := "\u3000abcd-0o1l-EfGh-zz99\n"
    let k : PersonalKey := ⟨"ABCD-0O1L-EFGH-ZZ99", by decide⟩
    Text.Alike k.text.toList raw.toList ∧ parse raw = parse k.text ∧ parse raw = .ok k := by
  intro raw k
  have spelled : raw.toList = ['\u3000'] ++ "abcd-0o1l-EfGh-zz99".toList ++ ['\n'] := by
    decide +kernel
  have case : Text.lower k.text.toList = Text.lower "abcd-0o1l-EfGh-zz99".toList := by
    decide +kernel
  have alike : Text.Alike k.text.toList raw.toList := by
    rw [spelled]
    have h := Text.Alike.intro case (List.forall_mem_nil _) (List.forall_mem_nil _)
      (List.forall_mem_singleton.2 (rfl : Text.isBlank '\u3000' = true))
      (List.forall_mem_singleton.2 (rfl : Text.isBlank '\n' = true))
    rwa [List.append_nil, List.nil_append] at h
  obtain ⟨readings, keys, -⟩ := parse_lawful
  have same := (readings k.text).alike alike
  exact ⟨alike, same, same.trans (keys k).text⟩

end Proofing.PersonalKey
