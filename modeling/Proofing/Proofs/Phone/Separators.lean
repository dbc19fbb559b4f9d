import Mathlib.Tactic.Common
import Proofing.Phone.Normalizer
import Proofing.Phone.Rejected
import Proofing.Proofs.Text.Trimming
/-
  Proofing — which texts name one phone number.

  * `sign` is the mark of an international number as it stands in the text, and
    `Reads` what a normalizer sees in a text: a sign, and digits with separators
    among them.  `parse_eq_ok_iff`: these texts are accepted, and no others.
  * `bare` is a text without its separators.  Nothing of what it leaves is lost
    on the way to the number (`Reads.ink`): it is the sign and the digits, with
    blanks around them.
  * `same_number_iff`: so separators may stand anywhere, except that one within a
    double zero hides the sign; the number is then completed as if it were a
    national one (`Misread`).
-/
namespace Proofing

/-! ## Characters -/

theorem toNat_of_isDigit {c : Char} (h : isDigit c = true) : 0x30 ≤ c.toNat ∧ c.toNat ≤ 0x39 := by
  simpa [isDigit, Char.le_def, UInt32.le_iff_toNat_le] using h

namespace Text

theorem isBlank_of_isDigit {c : Char} (h : isDigit c = true) : isBlank c = false := by
  have range := toNat_of_isDigit h
  simp only [isBlank, Bool.or_eq_false_iff, Bool.and_eq_false_iff, decide_eq_false_iff_not,
    beq_eq_false_iff_ne]
  omega

end Text

/-! ## Numbers -/

namespace PhoneNumber

/-- What follows the plus sign. -/
def digits (x : PhoneNumber) : List Char :=
  x.text.toList.tail

theorem isSubscriber_of_isWellFormed {cs : List Char} (h : isWellFormed cs = true) :
    cs = '+' :: cs.tail ∧ isSubscriber cs.tail = true := by
  fun_cases isWellFormed cs <;> simp_all [isWellFormed]

theorem toList_text (x : PhoneNumber) : x.text.toList = '+' :: x.digits :=
  (isSubscriber_of_isWellFormed x.wellFormed).1

theorem isSubscriber_digits (x : PhoneNumber) : isSubscriber x.digits = true :=
  (isSubscriber_of_isWellFormed x.wellFormed).2

theorem digits_ne_zero_cons (x : PhoneNumber) (ds : List Char) : x.digits ≠ '0' :: ds := by
  intro h
  have formed := x.isSubscriber_digits
  rw [h] at formed
  simp [isSubscriber] at formed

theorem parse_eq_ok_iff {text : String} {x : PhoneNumber} : parse text = .ok x ↔ x.text = text := by
  constructor
  · intro h
    unfold parse at h
    split at h <;> cases h
    rfl
  · rintro rfl
    exact parse_text x

theorem digits_inj {x y : PhoneNumber} : x.digits = y.digits ↔ x = y := by
  constructor
  · intro h
    have text : x.text = y.text := by
      rw [← String.toList_inj, x.toList_text, y.toList_text, h]
    cases x
    cases y
    cases text
    rfl
  · rintro rfl
    rfl

theorem parse_ofList_eq_ok_iff {ds : List Char} {x : PhoneNumber} :
    parse (String.ofList ('+' :: ds)) = .ok x ↔ x.digits = ds := by
  rw [parse_eq_ok_iff, ← String.toList_inj, x.toList_text, String.toList_ofList, List.cons_inj_right]

end PhoneNumber

namespace Normalizer

theorem isSeparator_of_isDigit {c : Char} (h : isDigit c = true) : isSeparator c = false := by
  have range := toNat_of_isDigit h
  simp only [isSeparator, Bool.or_eq_false_iff, beq_eq_false_iff_ne]
  refine ⟨⟨⟨⟨?_, ?_⟩, ?_⟩, ?_⟩, ?_⟩ <;> rintro rfl <;> simp at range

/-- Neither a blank nor a separator. -/
def isInk (c : Char) : Bool :=
  !Text.isBlank c && !isSeparator c

/-- In the body of a number, only the digits are neither. -/
theorem isInk_eq_isDigit {c : Char} (h : (isDigit c || isSeparator c) = true) :
    isInk c = isDigit c := by
  cases hd : isDigit c with
  | true => rw [isInk, Text.isBlank_of_isDigit hd, isSeparator_of_isDigit hd]; rfl
  | false =>
    rw [hd, Bool.false_or] at h
    rw [isInk, h, Bool.not_true, Bool.and_false]

/-- A text without its separators. -/
def bare (raw : String) : List Char :=
  raw.toList.filter (! isSeparator ·)

/-- What is left of a text without its blanks too. -/
def ink (raw : String) : List Char :=
  raw.toList.filter isInk

theorem ink_eq (raw : String) : ink raw = (bare raw).filter (! Text.isBlank ·) := by
  rw [ink, bare, List.filter_filter]; rfl

/-! ## What a normalizer sees in a text -/

/-- The mark of an international number, as it stands at the start of a text. -/
def sign : List Char → List Char
  | '+' :: _ => ['+']
  | '0' :: '0' :: _ => ['0', '0']
  | _ => []

/-- The sign of a text, after the blanks before it. -/
def signOf (raw : String) : List Char :=
  sign (Text.trim raw.toList)

/-- What follows the sign, up to the blanks at the end. -/
def bodyOf (raw : String) : List Char :=
  (mark (Text.trim raw.toList)).2

theorem mark_fst (cs : List Char) : (mark cs).1 = !(sign cs).isEmpty := by
  fun_cases sign cs <;> simp [mark]

theorem sign_append (cs : List Char) : sign cs ++ (mark cs).2 = cs := by
  fun_cases sign cs <;> simp [mark]

theorem sign_cases (cs : List Char) : sign cs = ['+'] ∨ sign cs = ['0', '0'] ∨ sign cs = [] := by
  fun_cases sign cs <;> simp

theorem filter_sign (cs : List Char) : (sign cs).filter isInk = sign cs := by
  rcases sign_cases cs with h | h | h <;> rw [h] <;> decide

theorem digits?_eq_some_iff {cs ds : List Char} : digits? cs = some ds ↔
    (∀ c ∈ cs, (isDigit c || isSeparator c) = true) ∧ ds = cs.filter isDigit := by
  simp only [digits?, Option.ite_none_right_eq_some, List.all_eq_true, Option.some.injEq,
    eq_comm (a := ds)]

/-- Digits with separators among them are what is neither a blank nor a separator. -/
theorem filter_of_digits? {cs ds : List Char} (h : digits? cs = some ds) : cs.filter isInk = ds := by
  obtain ⟨all, rfl⟩ := digits?_eq_some_iff.1 h
  exact List.filter_congr fun c hc => isInk_eq_isDigit (all c hc)

/-- A text is read as a number: its digits, completed by the country code unless there is a sign or
    they start with the code already. -/
structure Reads (n : Normalizer) (raw : String) (ds : List Char) (x : PhoneNumber) : Prop where
  digits : digits? (bodyOf raw) = some ds
  nonempty : ds ≠ []
  complete : x.digits = n.complete (!(signOf raw).isEmpty) ds

theorem mark_trim (raw : String) :
    mark (Text.trim raw.toList) = (!(signOf raw).isEmpty, bodyOf raw) :=
  Prod.ext (mark_fst _) rfl

theorem parse_eq_ok_iff {n : Normalizer} {raw : String} {x : PhoneNumber} :
    n.parse raw = .ok x ↔ ∃ ds, n.Reads raw ds x := by
  rw [parse, mark_trim]
  dsimp only
  constructor
  · intro h
    split at h
    · cases h
    · cases h
    · next ds nonempty hds =>
      split at h
      · next hx =>
        cases h
        exact ⟨ds, hds, nonempty, PhoneNumber.parse_ofList_eq_ok_iff.1 hx⟩
      · cases h
  · rintro ⟨ds, hds, nonempty, complete⟩
    obtain ⟨d, ds, rfl⟩ := List.exists_cons_of_ne_nil nonempty
    rw [hds]
    simp only [PhoneNumber.parse_ofList_eq_ok_iff.2 complete]

variable {n : Normalizer} {raw raw' : String} {ds ds' : List Char} {x x' : PhoneNumber}

namespace Reads

/-- Without blanks and separators, an accepted text is its sign and its digits. -/
theorem ink (h : n.Reads raw ds x) : ink raw = signOf raw ++ ds := by
  have blanks : ∀ c, Text.isBlank c = true → isInk c = false := fun c hc => by simp [isInk, hc]
  calc Normalizer.ink raw = (Text.trim raw.toList).filter isInk := (Text.filter_trim blanks _).symm
    _ = (signOf raw ++ bodyOf raw).filter isInk := by rw [signOf, bodyOf, sign_append]
    _ = signOf raw ++ ds := by
      rw [List.filter_append, signOf, filter_sign, filter_of_digits? h.digits]

theorem isDigit (h : n.Reads raw ds x) {c : Char} (hc : c ∈ ds) : isDigit c = true := by
  obtain ⟨-, rfl⟩ := digits?_eq_some_iff.1 h.digits
  exact (List.mem_filter.1 hc).2

theorem digits_of_signed (h : n.Reads raw ds x) (signed : signOf raw ≠ []) : x.digits = ds := by
  have hx := h.complete
  rwa [Normalizer.complete, if_pos (by simp [signed])] at hx

/-- No number begins with a zero, so digits that do are completed. -/
theorem digits_of_zero (h : n.Reads raw ('0' :: ds) x) :
    x.digits = n.countryCode.toList ++ '0' :: ds := by
  have hx := h.complete
  rw [Normalizer.complete] at hx
  split at hx
  · exact absurd hx (x.digits_ne_zero_cons ds)
  · exact hx

/-- Separators do not matter to the signs and digits of two texts together. -/
theorem append_eq (h : n.Reads raw ds x) (h' : n.Reads raw' ds' x') (same : bare raw = bare raw') :
    signOf raw ++ ds = signOf raw' ++ ds' := by
  rw [← h.ink, ← h'.ink, ink_eq, ink_eq, same]

/-- Equal signs leave nothing but equal digits. -/
theorem eq_of_signOf_eq (h : n.Reads raw ds x) (h' : n.Reads raw' ds' x')
    (same : bare raw = bare raw') (hsign : signOf raw = signOf raw') : x = x' := by
  have hds : ds = ds' := by
    rw [← List.append_cancel_left_eq (signOf raw'), ← h.append_eq h' same, hsign]
  rw [← PhoneNumber.digits_inj, h.complete, h'.complete, hsign, hds]

end Reads

/-- The double zero of one text is broken by a separator in another, which is completed as if it
    were a national number. -/
structure Misread (n : Normalizer) (raw raw' : String) (x x' : PhoneNumber) : Prop where
  whole : signOf raw = ['0', '0']
  broken : signOf raw' = []
  digits : x'.digits = n.countryCode.toList ++ '0' :: '0' :: x.digits

theorem Misread.ne (h : n.Misread raw raw' x x') : x ≠ x' := by
  rintro rfl
  have := congrArg List.length h.digits
  simp only [List.length_append, List.length_cons] at this
  omega

/-- Where the same characters are a sign in one text and none in another, the sign is a double zero:
    a plus sign would not be read as a digit. -/
theorem Reads.misread_of_unsigned (h : n.Reads raw ds x) (h' : n.Reads raw' ds' x')
    (same : bare raw = bare raw') (signed : signOf raw ≠ []) (unsigned : signOf raw' = []) :
    n.Misread raw raw' x x' := by
  have hds : signOf raw ++ ds = ds' := by
    rw [h.append_eq h' same, unsigned, List.nil_append]
  rcases sign_cases (Text.trim raw.toList) with hsign | hsign | hsign <;>
    rw [← signOf] at hsign
  · have plus : '+' ∈ ds' := by simp [← hds, hsign]
    exact absurd (h'.isDigit plus) (by decide)
  · rw [hsign] at hds
    subst hds
    refine ⟨hsign, unsigned, ?_⟩
    rw [h.digits_of_signed signed]
    exact h'.digits_of_zero
  · exact absurd hsign signed

/-- Different signs of texts with the same characters are a double zero, whole and broken. -/
theorem Reads.misread (h : n.Reads raw ds x) (h' : n.Reads raw' ds' x')
    (same : bare raw = bare raw') (hsign : signOf raw ≠ signOf raw') :
    n.Misread raw raw' x x' ∨ n.Misread raw' raw x' x := by
  by_cases unsigned' : signOf raw' = []
  · exact .inl (h.misread_of_unsigned h' same (unsigned' ▸ hsign) unsigned')
  by_cases unsigned : signOf raw = []
  · exact .inr (h'.misread_of_unsigned h same.symm unsigned' unsigned)
  -- Both have a sign, so a plus sign would stand where the other has a zero.
  have hink := h.append_eq h' same
  rcases sign_cases (Text.trim raw.toList) with hs | hs | hs <;>
    rcases sign_cases (Text.trim raw'.toList) with hs' | hs' | hs' <;>
    simp_all [signOf]

/-- **Separators may stand anywhere in a number, except within a double zero.**  Where a normalizer
    accepts two texts that are the same without separators, it makes the same number of them exactly
    if it sees the same sign in both.  Otherwise one of them breaks the double zero of the other, and
    is completed by the country code although its number has one. -/
theorem same_number_iff (n : Normalizer) {raw raw' : String} {x x' : PhoneNumber}
    (same : bare raw = bare raw') (hx : n.parse raw = .ok x) (hx' : n.parse raw' = .ok x') :
    (x = x' ↔ signOf raw = signOf raw') ∧
      (x ≠ x' → n.Misread raw raw' x x' ∨ n.Misread raw' raw x' x) := by
  obtain ⟨ds, h⟩ := parse_eq_ok_iff.1 hx
  obtain ⟨ds', h'⟩ := parse_eq_ok_iff.1 hx'
  have equal : signOf raw = signOf raw' → x = x' := h.eq_of_signOf_eq h' same
  have apart (hsign : signOf raw ≠ signOf raw') := h.misread h' same hsign
  refine ⟨⟨fun hxx' => ?_, equal⟩, fun ne => apart (mt equal ne)⟩
  by_contra hsign
  rcases apart hsign with broken | broken
  · exact broken.ne hxx'
  · exact broken.ne hxx'.symm

/-- A number of the country with code 1, and what becomes of it when a separator breaks the double
    zero. -/
theorem same_number_iff_broken :
    let n : Normalizer := ⟨"1"⟩
    let x : PhoneNumber := ⟨"+12025550123", by decide⟩
    let x' : PhoneNumber := ⟨"+10012025550123", by decide⟩
    bare "0012025550123" = bare "(0)0 1 202-555-0123" ∧ n.parse "0012025550123" = .ok x ∧
      n.parse "(0)0 1 202-555-0123" = .ok x' ∧ x ≠ x' := by
  intro n x x'
  have same : bare "0012025550123" = bare "(0)0 1 202-555-0123" := by decide
  have whole : n.parse "0012025550123" = .ok x :=
    parse_eq_ok_iff.2 ⟨"12025550123".toList, by decide, by decide, by decide⟩
  have broken : n.parse "(0)0 1 202-555-0123" = .ok x' :=
    parse_eq_ok_iff.2 ⟨"0012025550123".toList, by decide, by decide, by decide⟩
  obtain ⟨iff, -⟩ := same_number_iff n same whole broken
  exact ⟨same, whole, broken, mt iff.1 (by decide)⟩

end Normalizer

/-! ## Numbers that were turned down -/

namespace RejectedNumbers

/-- With one more number, unless it is there already. -/
def add (r : RejectedNumbers) (x : PhoneNumber) : RejectedNumbers :=
  if x ∈ r.numbers then r else ⟨r.numbers ++ [x]⟩

variable {ν : Type} [PhoneReader ν] {reader : ν} {r r' : RejectedNumbers} {raw : String} {new : Bool}

theorem add_of_mem {x : PhoneNumber} (h : x ∈ r.numbers) : r.add x = r :=
  if_pos h

theorem mem_add (r : RejectedNumbers) (x : PhoneNumber) : x ∈ (r.add x).numbers := by
  unfold add
  split
  · assumption
  · simp

theorem note_eq_ok_iff : r.note reader raw = .ok (new, r') ↔
    ∃ x, PhoneReader.parse reader raw = .ok x ∧ new = decide (x ∉ r.numbers) ∧ r' = r.add x := by
  unfold note
  cases PhoneReader.parse reader raw with
  | error e => simp [bind, Except.bind]
  | ok x =>
    by_cases h : x ∈ r.numbers <;>
      simp [bind, Except.bind, pure, Except.pure, add, h, eq_comm]

theorem note_eq_error_iff {e : FormatError} :
    r.note reader raw = .error e ↔ PhoneReader.parse reader raw = .error e := by
  unfold note
  cases PhoneReader.parse reader raw <;> simp [bind, Except.bind, pure, Except.pure]

/-- A number comes up once, with whatever separators it comes back. -/
theorem note_again {n : Normalizer} {r'' : RejectedNumbers} {raw' : String} {new' : Bool}
    (h : r.note n raw = .ok (new, r')) (h' : r'.note n raw' = .ok (new', r''))
    (same : Normalizer.bare raw = Normalizer.bare raw')
    (hsign : Normalizer.signOf raw = Normalizer.signOf raw') : new' = false ∧ r'' = r' := by
  obtain ⟨x, hx, -, rfl⟩ := note_eq_ok_iff.1 h
  obtain ⟨x', hx', rfl, rfl⟩ := note_eq_ok_iff.1 h'
  obtain ⟨ds, reads⟩ := Normalizer.parse_eq_ok_iff.1 hx
  obtain ⟨ds', reads'⟩ := Normalizer.parse_eq_ok_iff.1 hx'
  obtain rfl := reads.eq_of_signOf_eq reads' same hsign
  exact ⟨decide_eq_false (not_not.2 (r.mem_add x)), add_of_mem (r.mem_add x)⟩

end RejectedNumbers

end Proofing
