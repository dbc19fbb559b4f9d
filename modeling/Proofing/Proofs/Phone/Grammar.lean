import Proofing.Proofs.Json.Lawful
import Proofing.Proofs.Phone.Separators
/-
  Proofing — the grammar of phone numbers.

  * `Spells` says which digits a text spells out, without a word of how they are
    found: what is between the blanks around it (`Text.Trims`), the mark in front
    (`Marks`), digits with separators among them, and the country code.
  * A text that spells out the digits of a number is read as this number, and
    every other text is refused; every number is the number of its own text, for
    every normalizer (`parse_exact`).
  * A `Form` is a way to write a number of a country.  Whatever the form, and
    wherever separators stand, the same digits are spelled out (`Form.spells`), and
    so all forms name one number (`forms_agree`).
-/
namespace Proofing

/-! ## The digits of a number -/

namespace PhoneNumber

/-- Eight to fifteen digits, the first of them not zero. -/
structure Subscriber (ds : List Char) : Prop where
  least : 8 ≤ ds.length
  most : ds.length ≤ 15
  digits : ∀ c ∈ ds, isDigit c = true
  first : ds.head? ≠ some '0'

theorem isSubscriber_iff {ds : List Char} : isSubscriber ds = true ↔ Subscriber ds := by
  simp only [isSubscriber, Bool.and_eq_true, decide_eq_true_eq, List.all_eq_true, bne_iff_ne]
  constructor
  · rintro ⟨⟨⟨least, most⟩, digits⟩, first⟩
    exact ⟨least, most, digits, first⟩
  · rintro ⟨least, most, digits, first⟩
    exact ⟨⟨⟨least, most⟩, digits⟩, first⟩

theorem subscriber_digits (x : PhoneNumber) : Subscriber x.digits :=
  isSubscriber_iff.1 x.isSubscriber_digits

theorem exists_of_subscriber {ds : List Char} (h : Subscriber ds) :
    ∃ x : PhoneNumber, x.digits = ds := by
  have formed : isWellFormed (String.ofList ('+' :: ds)).toList = true := by
    rw [String.toList_ofList]
    exact isSubscriber_iff.2 h
  refine ⟨⟨_, formed⟩, ?_⟩
  rw [digits, String.toList_ofList, List.tail_cons]

theorem text_eq_iff {x : PhoneNumber} {ds : List Char} :
    x.text = String.ofList ('+' :: ds) ↔ x.digits = ds := by
  rw [← parse_eq_ok_iff, parse_ofList_eq_ok_iff]

end PhoneNumber

namespace Normalizer

open PhoneNumber (Subscriber)

/-! ## What a text spells out -/

/-- A text has the mark of an international number, and what follows it. -/
inductive Marks : List Char → Bool → List Char → Prop where
  | plus (body : List Char) : Marks ('+' :: body) true body
  | zeros (body : List Char) : Marks ('0' :: '0' :: body) true body
  | unmarked {body : List Char} (plus : ¬ ['+'] <+: body) (zeros : ¬ ['0', '0'] <+: body) :
    Marks body false body

theorem marks_iff {t body : List Char} {international : Bool} :
    Marks t international body ↔ mark t = (international, body) := by
  constructor
  · rintro (_ | _ | ⟨plus, zeros⟩)
    · rfl
    · rfl
    · fun_cases mark t <;> simp_all
  · intro h
    unfold mark at h
    split at h <;> cases h
    · exact .plus _
    · exact .zeros _
    · next plus zeros =>
      refine .unmarked ?_ ?_
      · rintro ⟨rest, rfl⟩
        exact plus rest rfl
      · rintro ⟨rest, rfl⟩
        exact zeros rest rfl

/-- The digits that a text spells out: its own where they have a country code, which a mark says, or
    the code itself in front of more digits than a national number has; otherwise the code and its
    own. -/
inductive Spells (n : Normalizer) (raw : String) : List Char → Prop where
  | intro {t body : List Char} {international : Bool} (trims : Text.Trims raw.toList t)
    (marks : Marks t international body)
    (plain : ∀ c ∈ body, isDigit c = true ∨ c ∈ [' ', '-', '(', ')', '.'])
    (any : ∃ c ∈ body, isDigit c = true) :
    Spells n raw <|
      let own := body.filter isDigit
      if international = true ∨ 10 < own.length ∧ n.countryCode.toList <+: own then own
      else n.countryCode.toList ++ own

theorem isSeparator_iff {c : Char} : isSeparator c = true ↔ c ∈ [' ', '-', '(', ')', '.'] := by
  simp [isSeparator, or_assoc]

theorem complete_eq (n : Normalizer) (international : Bool) (ds : List Char) :
    n.complete international ds =
      if international = true ∨ 10 < ds.length ∧ n.countryCode.toList <+: ds then ds
      else n.countryCode.toList ++ ds := by
  simp only [complete, Bool.or_eq_true, Bool.and_eq_true, decide_eq_true_eq,
    List.isPrefixOf_iff_prefix]
  rfl

variable {n : Normalizer} {raw : String} {ds : List Char} {x : PhoneNumber}

theorem spells_iff : n.Spells raw ds ↔ ∃ own, digits? (bodyOf raw) = some own ∧ own ≠ [] ∧
    ds = n.complete (!(signOf raw).isEmpty) own := by
  constructor
  · rintro ⟨trims, marks, plain, c, hc, digit⟩
    rw [← Text.trim_eq_iff] at trims
    subst trims
    rw [marks_iff, mark_trim] at marks
    cases marks
    refine ⟨_, digits?_eq_some_iff.2 ⟨fun c hc => ?_, rfl⟩, ?_, (complete_eq ..).symm⟩
    · rw [Bool.or_eq_true, isSeparator_iff]
      exact plain c hc
    · exact List.ne_nil_of_mem (List.mem_filter.2 ⟨hc, digit⟩)
  · rintro ⟨own, hown, nonempty, rfl⟩
    obtain ⟨plain, rfl⟩ := digits?_eq_some_iff.1 hown
    obtain ⟨c, hc⟩ := List.exists_mem_of_ne_nil _ nonempty
    rw [complete_eq]
    refine .intro (Text.trims_trim _) (marks_iff.2 (mark_trim raw)) (fun c hc => ?_)
      ⟨c, List.mem_filter.1 hc⟩
    rw [← isSeparator_iff, ← Bool.or_eq_true]
    exact plain c hc

theorem Spells.unique {ds' : List Char} (h : n.Spells raw ds) (h' : n.Spells raw ds') :
    ds = ds' := by
  obtain ⟨own, hown, -, rfl⟩ := spells_iff.1 h
  obtain ⟨own', hown', -, rfl⟩ := spells_iff.1 h'
  cases hown.symm.trans hown'
  rfl

/-! ## What is read -/

theorem parse_eq_ok_iff_spells : n.parse raw = .ok x ↔ n.Spells raw x.digits := by
  rw [parse_eq_ok_iff, spells_iff]
  refine exists_congr fun own => ⟨?_, ?_⟩
  · rintro ⟨digits, nonempty, complete⟩
    exact ⟨digits, nonempty, complete⟩
  · rintro ⟨digits, nonempty, complete⟩
    exact ⟨digits, nonempty, complete⟩

/-- What is refused is named as it came. -/
theorem eq_of_parse_error {e : FormatError} (h : n.parse raw = .error e) : e = .phone raw := by
  rw [parse, mark_trim] at h
  dsimp only at h
  split at h
  · cases h; rfl
  · cases h; rfl
  · split at h <;> cases h
    rfl

theorem parse_eq_error_iff {e : FormatError} :
    n.parse raw = .error e ↔ e = .phone raw ∧ ¬ ∃ ds, n.Spells raw ds ∧ Subscriber ds := by
  constructor
  · intro h
    refine ⟨eq_of_parse_error h, ?_⟩
    rintro ⟨ds, spells, subscriber⟩
    obtain ⟨x, rfl⟩ := PhoneNumber.exists_of_subscriber subscriber
    rw [parse_eq_ok_iff_spells.2 spells] at h
    cases h
  · rintro ⟨rfl, none⟩
    cases h : n.parse raw with
    | ok x => exact absurd ⟨_, parse_eq_ok_iff_spells.1 h, x.subscriber_digits⟩ none
    | error e => rw [eq_of_parse_error h]

/-- The text of a number spells out its digits in every country. -/
theorem spells_text (n : Normalizer) (x : PhoneNumber) : n.Spells x.text x.digits := by
  have digits : ∀ c ∈ x.digits, isDigit c = true := x.subscriber_digits.digits
  have plain : ∀ c ∈ '+' :: x.digits, Text.isBlank c = false := by
    rintro c (_ | ⟨_, hc⟩)
    · decide
    · exact Text.isBlank_of_isDigit (digits c hc)
  have trimmed : Text.trim x.text.toList = '+' :: x.digits := by
    rw [x.toList_text, Text.trim_of_plain plain]
  have signed : (signOf x.text).isEmpty = false := by
    rw [signOf, trimmed]
    rfl
  refine spells_iff.2 ⟨x.digits, ?_, ?_, ?_⟩
  · rw [bodyOf, trimmed, digits?_eq_some_iff]
    exact ⟨fun c hc => by simp [digits c hc], (List.filter_eq_self.2 digits).symm⟩
  · intro none
    have least := x.subscriber_digits.least
    rw [none] at least
    simp at least
  · simp [complete, signed]

/-- What a normalizer reads, what it refuses, and what nothing changes. -/
structure Exact (n : Normalizer) : Prop where
  accepts {raw : String} {x : PhoneNumber} : n.parse raw = .ok x ↔
    ∃ ds, n.Spells raw ds ∧ Subscriber ds ∧ x.text = String.ofList ('+' :: ds)
  refuses {raw : String} {e : FormatError} : n.parse raw = .error e ↔
    e = .phone raw ∧ ¬ ∃ ds, n.Spells raw ds ∧ Subscriber ds
  keeps (x : PhoneNumber) : n.parse x.text = .ok x ∧ PhoneNumber.parse x.text = .ok x ∧
    ∀ j, Coded.decode j = .ok x ↔ j = .str x.text

/-- **A normalizer reads what spells out a number, and nothing else.**  All that is wrong with any
    other text is named by the text, as it came.  The text of a number is read as this number: by
    every normalizer, in stored data and by itself. -/
theorem parse_exact (n : Normalizer) : Exact n where
  accepts {raw x} := by
    rw [parse_eq_ok_iff_spells]
    constructor
    · intro spells
      exact ⟨x.digits, spells, x.subscriber_digits, PhoneNumber.text_eq_iff.2 rfl⟩
    · rintro ⟨ds, spells, -, text⟩
      rwa [PhoneNumber.text_eq_iff.1 text]
  refuses := parse_eq_error_iff
  keeps x := by
    refine ⟨parse_eq_ok_iff_spells.2 (n.spells_text x), x.parse_text, fun j => ?_⟩
    refine Coded.text_eq_ok_iff.trans ⟨?_, ?_⟩
    · rintro ⟨s, rfl, hs⟩
      rw [PhoneNumber.parse_eq_ok_iff.1 hs]
    · rintro rfl
      exact ⟨x.text, rfl, x.parse_text⟩

/-! ## The forms of a national number -/

/-- How a number is written: by itself, after its country code, or after a plus sign or a double
    zero and the code. -/
inductive Form where
  | national
  | full
  | plus
  | zeros

namespace Form

/-- The mark in front. -/
def sign : Form → List Char
  | national | full => []
  | plus => ['+']
  | zeros => ['0', '0']

/-- The digits after the mark. -/
def digits (code number : List Char) : Form → List Char
  | national => number
  | full | plus | zeros => code ++ number

/-- A text has a number in this form: blanks around it, and separators anywhere after the mark. -/
structure Writes (form : Form) (code number : List Char) (raw : String)
    (before body after : List Char) : Prop where
  text : raw.toList = before ++ (form.sign ++ body) ++ after
  blanks_before : ∀ c ∈ before, Text.isBlank c = true
  blanks_after : ∀ c ∈ after, Text.isBlank c = true
  bare : body.filter (! isSeparator ·) = form.digits code number

end Form

/-- A country code. -/
structure IsCode (code : List Char) : Prop where
  digits : ∀ c ∈ code, isDigit c = true
  nonempty : code ≠ []
  first : code.head? ≠ some '0'

/-- A national number, not to be taken for one with a double zero. -/
structure IsNational (number : List Char) : Prop where
  digits : ∀ c ∈ number, isDigit c = true
  length : number.length = 10
  first : ¬ ['0', '0'] <+: number

namespace Form

variable {form : Form} {code number before body after : List Char} {raw : String}

theorem isBlank_sign (form : Form) : ∀ c ∈ form.sign, Text.isBlank c = false := by
  cases form <;> simp [sign, Text.isBlank]

theorem isDigit_digits (hcode : IsCode code) (hnumber : IsNational number) (form : Form) :
    ∀ c ∈ form.digits code number, isDigit c = true := by
  have both : ∀ c ∈ code ++ number, isDigit c = true :=
    List.forall_mem_append.2 ⟨hcode.digits, hnumber.digits⟩
  cases form
  case national => exact hnumber.digits
  all_goals exact both

theorem digits_ne_nil (hnumber : IsNational number) (form : Form) :
    form.digits code number ≠ [] := by
  obtain ⟨c, number, rfl⟩ := List.exists_cons_of_length_eq_add_one hnumber.length
  cases form <;> simp [digits]

/-- Digits without a mark do not look as if they had one. -/
theorem no_zeros (hcode : IsCode code) (hnumber : IsNational number) (unsigned : form.sign = []) :
    ¬ ['0', '0'] <+: form.digits code number := by
  cases form
  case national => exact hnumber.first
  case full =>
    obtain ⟨c, code, rfl⟩ := List.exists_cons_of_ne_nil hcode.nonempty
    intro zeros
    have first := hcode.first
    rw [digits, List.cons_append, List.cons_prefix_cons] at zeros
    simp [← zeros.1] at first
  all_goals cases unsigned

/-- In every form, the digits are the country code and the number. -/
theorem completed (hcode : IsCode code) (hnumber : IsNational number) (form : Form) :
    (if (!form.sign.isEmpty) = true ∨
        10 < (form.digits code number).length ∧ code <+: form.digits code number
      then form.digits code number else code ++ form.digits code number) = code ++ number := by
  cases form
  case national => simp [sign, digits, hnumber.length]
  case full =>
    have longer : 10 < (code ++ number).length := by
      have := List.length_pos_iff.2 hcode.nonempty
      rw [List.length_append, hnumber.length]
      omega
    exact if_pos (.inr ⟨longer, List.prefix_append ..⟩)
  all_goals rfl

namespace Writes

variable (writes : form.Writes code number raw before body after) (hcode : IsCode code)
  (hnumber : IsNational number)
include writes hcode hnumber

theorem plain : ∀ c ∈ body, isDigit c = true ∨ isSeparator c = true := by
  intro c hc
  by_cases separator : isSeparator c = true
  · exact .inr separator
  · refine .inl (isDigit_digits hcode hnumber form c ?_)
    rw [← writes.bare]
    exact List.mem_filter.2 ⟨hc, by simpa using separator⟩

theorem filter_isDigit : body.filter isDigit = form.digits code number := by
  rw [← writes.bare]
  refine List.filter_congr fun c hc => ?_
  rcases writes.plain hcode hnumber c hc with digit | separator
  · rw [digit, isSeparator_of_isDigit digit]
    rfl
  · cases digit : isDigit c
    · rw [separator]
      rfl
    · rw [isSeparator_of_isDigit digit] at separator
      cases separator

omit hcode hnumber in
/-- What is left between the blanks: the mark, and of the body no less than its digits. -/
theorem trims : ∃ rest, Text.Trims raw.toList (form.sign ++ rest) ∧ (∀ c ∈ rest, c ∈ body) ∧
    rest.filter isDigit = body.filter isDigit := by
  have undigital {bs : List Char} (h : ∀ c ∈ bs, Text.isBlank c = true) :
      bs.filter isDigit = [] := by
    refine List.filter_eq_nil_iff.2 fun c hc digit => ?_
    have blank := h c hc
    rw [Text.isBlank_of_isDigit digit] at blank
    cases blank
  have trimmed : Text.trim raw.toList = Text.trim (form.sign ++ body) := by
    rw [writes.text, Text.trim_surrounded writes.blanks_before writes.blanks_after]
  by_cases unsigned : form.sign = []
  · simp only [unsigned, List.nil_append] at trimmed ⊢
    obtain ⟨b, a, hbody, hb, ha⟩ := (Text.trims_trim body).within
    refine ⟨Text.trim body, Text.trim_eq_iff.1 trimmed, fun c hc => ?_, ?_⟩
    · rw [hbody]
      simp [hc]
    · conv_rhs => rw [hbody, List.filter_append, List.filter_append, undigital hb, undigital ha]
      simp
  · obtain ⟨rest, a, hrest, hbody, ha⟩ :=
      Text.trim_append_of_plain body form.isBlank_sign unsigned
    refine ⟨rest, Text.trim_eq_iff.1 (trimmed.trans hrest), fun c hc => ?_, ?_⟩
    · rw [hbody]
      exact List.mem_append_left _ hc
    · rw [hbody, List.filter_append, undigital ha, List.append_nil]

theorem marks {rest : List Char} (within : ∀ c ∈ rest, c ∈ body)
    (same : rest.filter isDigit = body.filter isDigit) :
    Marks (form.sign ++ rest) (!form.sign.isEmpty) rest := by
  have unmarked (unsigned : form.sign = []) :
      Marks (form.sign ++ rest) (!form.sign.isEmpty) rest := by
    rw [unsigned]
    change Marks rest false rest
    refine .unmarked ?_ ?_
    · intro plus
      have inside : '+' ∈ body := within _ (plus.subset List.mem_cons_self)
      rcases writes.plain hcode hnumber '+' inside with h | h <;> cases h
    · intro zeros
      have digits := zeros.filter isDigit
      rw [same, writes.filter_isDigit hcode hnumber] at digits
      exact no_zeros hcode hnumber unsigned digits
  cases form
  case plus => exact .plus rest
  case zeros => exact .zeros rest
  all_goals exact unmarked rfl

end Writes

/-- Every form spells out the country code and the number. -/
theorem spells {n : Normalizer} (hcode : IsCode n.countryCode.toList) (hnumber : IsNational number)
    (writes : form.Writes n.countryCode.toList number raw before body after) :
    n.Spells raw (n.countryCode.toList ++ number) := by
  obtain ⟨rest, trims, within, same⟩ := writes.trims
  have own := same.trans (writes.filter_isDigit hcode hnumber)
  have any : ∃ c ∈ rest, isDigit c = true := by
    obtain ⟨c, hc⟩ := List.exists_mem_of_ne_nil _ (digits_ne_nil hnumber form)
    rw [← own, List.mem_filter] at hc
    exact ⟨c, hc⟩
  have spells : n.Spells raw _ := .intro trims (writes.marks hcode hnumber within same)
    (fun c hc => (writes.plain hcode hnumber c (within c hc)).imp_right isSeparator_iff.1) any
  rw [own] at spells
  rwa [← completed hcode hnumber form]

end Form

theorem IsCode.subscriber_iff {code number : List Char} (hcode : IsCode code)
    (hnumber : IsNational number) : Subscriber (code ++ number) ↔ code.length ≤ 5 := by
  have length : (code ++ number).length = code.length + 10 := by
    rw [List.length_append, hnumber.length]
  constructor
  · intro h
    have := h.most
    omega
  · intro short
    obtain ⟨c, code, rfl⟩ := List.exists_cons_of_ne_nil hcode.nonempty
    refine ⟨by omega, by omega, ?_, hcode.first⟩
    exact List.forall_mem_append.2 ⟨hcode.digits, hnumber.digits⟩

/-- **All forms of a national number agree.**  By itself, after its country code, or after a mark
    and the code, with separators anywhere after the mark and blanks around it: it is read as the
    same number, or in no form where the country code leaves no room for ten digits. -/
theorem forms_agree (n : Normalizer) {number : List Char} (hcode : IsCode n.countryCode.toList)
    (hnumber : IsNational number) (form : Form) {raw : String} {before body after : List Char}
    (writes : form.Writes n.countryCode.toList number raw before body after) :
    (n.parse raw).map PhoneNumber.text = if n.countryCode.toList.length ≤ 5
      then .ok (String.ofList ('+' :: (n.countryCode.toList ++ number)))
      else .error (.phone raw) := by
  have spells := form.spells hcode hnumber writes
  split
  case isTrue short =>
    obtain ⟨x, hx⟩ := PhoneNumber.exists_of_subscriber ((hcode.subscriber_iff hnumber).2 short)
    rw [parse_eq_ok_iff_spells.2 (hx ▸ spells), ← PhoneNumber.text_eq_iff.2 hx]
    rfl
  case isFalse long =>
    have none : ¬ ∃ ds, n.Spells raw ds ∧ Subscriber ds := by
      rintro ⟨ds, spells', subscriber⟩
      rw [spells'.unique spells, hcode.subscriber_iff hnumber] at subscriber
      exact long subscriber
    rw [parse_eq_error_iff.2 ⟨rfl, none⟩]
    rfl

/-- A number that begins with a zero, after a plus sign and a code of three digits, and the same
    number by itself where the code has six. -/
theorem forms_agree_zero :
    let short : Normalizer := ⟨"358"⟩
    let long : Normalizer := ⟨"358358"⟩
    let number := "0401234567".toList
    IsCode short.countryCode.toList ∧ IsCode long.countryCode.toList ∧ IsNational number ∧
      (short.parse "\u00a0+(358) 040.123-4567 ").map PhoneNumber.text = .ok "+3580401234567" ∧
      (long.parse "(040) 1234567").map PhoneNumber.text = .error (.phone "(040) 1234567") := by
  intro short long number
  have hshort : IsCode short.countryCode.toList :=
    ⟨List.all_eq_true.1 (by decide), by decide, by decide⟩
  have hlong : IsCode long.countryCode.toList :=
    ⟨List.all_eq_true.1 (by decide), by decide, by decide⟩
  have hnumber : IsNational number := ⟨List.all_eq_true.1 (by decide), by decide, by decide⟩
  have plus : Form.Writes .plus short.countryCode.toList number "\u00a0+(358) 040.123-4567 "
      ['\u00a0'] "(358) 040.123-4567".toList [' '] :=
    ⟨by decide, List.all_eq_true.1 (by decide), List.all_eq_true.1 (by decide), by decide⟩
  have national : Form.Writes .national long.countryCode.toList number "(040) 1234567"
      [] "(040) 1234567".toList [] :=
    ⟨by decide, List.all_eq_true.1 (by decide), List.all_eq_true.1 (by decide), by decide⟩
  have text : String.ofList ('+' :: (short.countryCode.toList ++ number)) = "+3580401234567" := by
    decide
  have read := forms_agree short hshort hnumber .plus plus
  have refused := forms_agree long hlong hnumber .national national
  rw [if_pos (by decide), text] at read
  rw [if_neg (by decide)] at refused
  exact ⟨hshort, hlong, hnumber, read, refused⟩

end Normalizer

end Proofing
