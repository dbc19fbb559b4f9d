import Mathlib.Data.List.Induction
import Proofing.Hex
import Proofing.Proofs.Text.Case
/-
  Proofing — which texts are octets in hexadecimal digits.

  * `decode_eq_ok_iff`: those that are written for the octets, but for the case of
    their letters;
  * `decode_eq_error_iff`: every other text is refused for an odd number of octets,
    or else for the first of them that is no digit (`Faulty`).
-/
namespace Proofing.Hex

/-! ## Digits -/

theorem lt_of_value? {o : UInt8} {n : Nat} (h : value? o = some n) : n < 16 := by
  unfold value? at h
  grind

/-- Beyond ASCII, no octet is a digit. -/
theorem value?_of_ge {o : UInt8} (h : 0x80 ≤ o.toNat) : value? o = none := by
  unfold value?
  grind

/-- A character that is a digit has one octet; the first octet of any other is no digit. -/
theorem octets_cases (c : Char) : ∃ o os, String.utf8EncodeChar c = o :: os ∧
    (os ≠ [] → value? o = none) ∧
      ∀ n, value? o = some n ↔ n < 16 ∧ c.toLower = Nat.digitChar n := by
  by_cases hc : c.toNat < 128
  · refine ⟨UInt8.ofNat c.toNat, [], ?_, fun h => absurd rfl h, fun n => ?_⟩
    · exact Text.utf8EncodeChar_of_ascii hc
    · have digit : ∀ n : Fin 16, value? (UInt8.ofNat c.toNat) = some n.val ↔
          c.toLower = Nat.digitChar n := by
        refine Text.forall_ascii ?_ c hc
        decide +kernel
      constructor
      · intro h
        have hn := lt_of_value? h
        exact ⟨hn, (digit ⟨n, hn⟩).1 h⟩
      · rintro ⟨hn, h⟩
        exact (digit ⟨n, hn⟩).2 h
  · obtain ⟨o, os, hos, ho⟩ := Text.utf8EncodeChar_of_not_ascii hc
    have hnone := value?_of_ge ho
    refine ⟨o, os, hos, fun _ => hnone, fun n => ?_⟩
    rw [hnone]
    refine ⟨nofun, fun ⟨hn, h⟩ => ?_⟩
    have small : ∀ n : Fin 16, (Nat.digitChar n).toNat < 128 := by decide
    have lower := Text.toNat_toLower c
    have := small ⟨n, hn⟩
    rw [h, if_neg (by omega)] at lower
    simp only at this
    omega

/-! ## What is read -/

/-- The values of the digits that octets are written with. -/
def nibbles (bs : List UInt8) : List Nat :=
  bs.flatMap fun b => [b.toNat / 16, b.toNat % 16]

theorem nibbles_cons (b : UInt8) (bs : List UInt8) :
    nibbles (b :: bs) = b.toNat / 16 :: b.toNat % 16 :: nibbles bs := rfl

theorem map_nibbles (bs : List UInt8) : (nibbles bs).map Nat.digitChar = encodeChars bs := by
  rw [nibbles, List.map_flatMap]
  rfl

theorem length_nibbles (bs : List UInt8) : (nibbles bs).length = 2 * bs.length := by
  induction bs with
  | nil => rfl
  | cons b bs ih => simp only [nibbles_cons, List.length_cons, ih]; omega

theorem lt_of_mem_nibbles {bs : List UInt8} {n : Nat} (h : n ∈ nibbles bs) : n < 16 := by
  obtain ⟨b, -, hn⟩ := List.mem_flatMap.1 h
  have hb : b.toNat < 256 := b.toNat_lt
  simp only [List.mem_cons, List.not_mem_nil, or_false] at hn
  omega

/-- The octet that two digits make. -/
theorem ofNat_eq_iff {x y : Nat} (hx : x < 16) (hy : y < 16) {b : UInt8} :
    UInt8.ofNat (x * 16 + y) = b ↔ x = b.toNat / 16 ∧ y = b.toNat % 16 := by
  have hb : b.toNat < 256 := b.toNat_lt
  rw [← UInt8.toNat_inj, UInt8.toNat_ofNat', Nat.mod_eq_of_lt (by omega)]
  omega

theorem pairs_eq_ok_iff (position : Nat) (os bs : List UInt8) :
    pairs position os = .ok bs ↔ os.map value? = (nibbles bs).map some := by
  fun_induction pairs position os generalizing bs with
  | case1 => cases bs <;> simp [nibbles]
  | case2 => cases bs <;> simp [nibbles]
  | case3 position a b rest x y hy hx ih =>
    cases bs with
    | nil => cases pairs (position + 2) rest <;> simp [Except.map, nibbles]
    | cons c bs =>
      have hmade := ofNat_eq_iff (lt_of_value? hx) (lt_of_value? hy) (b := c)
      simp only [List.map_cons, nibbles_cons, hx, hy, List.cons.injEq, Option.some.injEq, ← ih bs]
      cases pairs (position + 2) rest with
      | error e => simp [Except.map]
      | ok bs' => simp only [Except.map, Except.ok.injEq, List.cons.injEq, hmade, and_assoc]
  | case4 _ a b rest ha => cases bs <;> simp [nibbles, ha]
  | case5 _ a b rest x ha hb => cases bs <;> simp [nibbles, ha, hb]

/-- The digits of a text have the values of the characters that they are written with. -/
theorem map_value?_eq_iff {cs : List Char} {ns : List Nat} (h : ∀ n ∈ ns, n < 16) :
    (cs.flatMap String.utf8EncodeChar).map value? = ns.map some ↔
      Text.lower cs = ns.map Nat.digitChar := by
  induction cs generalizing ns with
  | nil => cases ns <;> simp [Text.lower]
  | cons c cs ih =>
    obtain ⟨o, os, hos, hmore, hvalue⟩ := octets_cases c
    rw [List.flatMap_cons, hos]
    cases ns with
    | nil => simp [Text.lower]
    | cons n ns =>
      obtain ⟨hn, hns⟩ := List.forall_mem_cons.1 h
      have first : value? o = some n ↔ c.toLower = Nat.digitChar n := by
        rw [hvalue]
        exact and_iff_right hn
      cases os with
      | nil =>
        have rest := ih hns
        simp only [Text.lower] at rest ⊢
        simp [first, rest]
      | cons o' os =>
        have hnone := hmore (List.cons_ne_nil _ _)
        rw [hnone] at first
        have hc : c.toLower ≠ Nat.digitChar n := fun e => by cases first.2 e
        simp [Text.lower, hnone, hc]

theorem even_of_pairs_ok {position : Nat} {os bs : List UInt8}
    (h : pairs position os = .ok bs) : os.length % 2 = 0 := by
  have hlength := congrArg List.length ((pairs_eq_ok_iff position os bs).1 h)
  rw [List.length_map, List.length_map, length_nibbles] at hlength
  omega

/-- A text is read as octets if it is written for them, but for the case of its letters. -/
theorem decode_eq_ok_iff {text : String} {bs : List UInt8} :
    decode text = .ok bs ↔ Text.lower text.toList = encodeChars bs := by
  have hread : (Text.octets text).map value? = (nibbles bs).map some ↔
      Text.lower text.toList = encodeChars bs := by
    rw [← map_nibbles, ← map_value?_eq_iff fun n hn => lt_of_mem_nibbles hn, ← Text.octets_ofList,
      String.ofList_toList]
  rw [← hread, ← pairs_eq_ok_iff 0, decode]
  split
  · rename_i hodd
    constructor
    · intro h
      cases h
    · intro h
      have := even_of_pairs_ok h
      omega
  · rfl

/-! ## What is refused -/

/-- Why a text is refused: the number of its octets is odd, or there is a first one that is no
    digit. -/
inductive Faulty (text : String) : Error → Prop
  | odd (h : (Text.octets text).length % 2 = 1) : Faulty text .oddLength
  | digit {front back : List UInt8} {o : UInt8} (even : (Text.octets text).length % 2 = 0)
      (split : Text.octets text = front ++ o :: back) (good : ∀ x ∈ front, value? x ≠ none)
      (bad : value? o = none) : Faulty text (.badDigit o front.length)

/-- Octets that are not all digits are read up to the first that is none. -/
theorem pairs_error {front back : List UInt8} {o : UInt8} (good : ∀ x ∈ front, value? x ≠ none)
    (bad : value? o = none) (even : (front ++ o :: back).length % 2 = 0) (position : Nat) :
    pairs position (front ++ o :: back) = .error (.badDigit o (position + front.length)) := by
  induction front using List.twoStepInduction generalizing position with
  | nil =>
    cases back with
    | nil => cases even
    | cons b back => simp [pairs, bad]
  | singleton a =>
    obtain ⟨x, hx⟩ := Option.ne_none_iff_exists'.1 (good a List.mem_cons_self)
    simp [pairs, hx, bad]
  | cons_cons a b front ih _ =>
    obtain ⟨x, hx⟩ := Option.ne_none_iff_exists'.1 (good a (by simp))
    obtain ⟨y, hy⟩ := Option.ne_none_iff_exists'.1 (good b (by simp))
    have rest := ih (fun z hz => good z (by simp [hz])) (by simp at even ⊢; omega) (position + 2)
    simp only [List.cons_append, pairs, hx, hy, rest, Except.map, List.length_cons]
    congr 2
    omega

theorem of_pairs_error {position : Nat} {os : List UInt8} {e : Error}
    (h : pairs position os = .error e) (even : os.length % 2 = 0) :
    ∃ front o back, os = front ++ o :: back ∧ (∀ x ∈ front, value? x ≠ none) ∧ value? o = none ∧
      e = .badDigit o (position + front.length) := by
  fun_induction pairs position os with
  | case1 => cases h
  | case2 => cases even
  | case3 position a b rest x y hb ha ih =>
    cases hrest : pairs (position + 2) rest with
    | ok bs => rw [hrest] at h; cases h
    | error e' =>
      rw [hrest] at h
      cases h
      obtain ⟨front, o, back, rfl, good, bad, rfl⟩ := ih hrest (by simp at even ⊢; omega)
      refine ⟨a :: b :: front, o, back, rfl, ?_, bad, ?_⟩
      · simp only [List.forall_mem_cons]
        exact ⟨by simp [ha], by simp [hb], good⟩
      · congr 1
        simp only [List.length_cons]
        omega
  | case4 position a b rest ha =>
    cases h
    exact ⟨[], a, b :: rest, rfl, by simp, ha, rfl⟩
  | case5 position a b rest x hb ha =>
    cases h
    exact ⟨[a], b, rest, rfl, by simp [ha], hb, rfl⟩

/-- A text is refused if there is something wrong with it, and for nothing else. -/
theorem decode_eq_error_iff {text : String} {e : Error} :
    decode text = .error e ↔ Faulty text e := by
  rcases Nat.mod_two_eq_zero_or_one (Text.octets text).length with even | odd
  · rw [decode, if_neg (by omega)]
    constructor
    · intro h
      obtain ⟨front, o, back, split, good, bad, rfl⟩ := of_pairs_error h even
      rw [Nat.zero_add]
      exact .digit even split good bad
    · rintro (odd | ⟨-, split, good, bad⟩)
      · omega
      · rw [split] at even ⊢
        rw [pairs_error good bad even, Nat.zero_add]
  · rw [decode, if_pos odd]
    constructor
    · intro h
      cases h
      exact .odd odd
    · rintro (_ | ⟨even, -⟩)
      · rfl
      · omega

end Proofing.Hex
