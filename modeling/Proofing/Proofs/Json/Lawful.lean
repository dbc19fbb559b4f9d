import Mathlib.Tactic.Common
import Proofing.Json.Decode
/-
  Proofing — values are read as they were written.

  `Coded.Lawful` says so of a type, and that none of its values is written as
  `null`, which stands for no value at all.  The texts, truth values, numbers and
  lists are lawful; so is a type that is a list of names (`Variants.lawful`), and
  one that is written as one of its parts (`Lawful.part`, `Lawful.text`).
-/
namespace Proofing

namespace Coded

/-- What is written of a value is read as that value, and is not `null`. -/
class Lawful (α : Type) [Coded α] : Prop where
  decode_encode (a : α) : Coded.decode (Coded.encode a) = .ok a
  encode_ne_null (a : α) : Coded.encode a ≠ .null

export Lawful (decode_encode encode_ne_null)

variable {α β : Type}

/-- Different values are written differently. -/
theorem encode_injective [Coded α] [Lawful α] {a b : α} (h : Coded.encode a = Coded.encode b) :
    a = b := by
  have hab : (.ok a : Except DecodeError α) = .ok b := by
    rw [← decode_encode a, h, decode_encode]
  exact Except.ok.inj hab

instance : Lawful String := ⟨fun _ => rfl, fun _ h => by cases h⟩

instance : Lawful Bool := ⟨fun _ => rfl, fun _ h => by cases h⟩

theorem below_nat {n bound : Nat} (h : n < bound) (name : String) :
    Decode.below bound name (.nat n) = .ok n := by
  have hn : (0 : Int) ≤ n ∧ (n : Int) < bound := by omega
  rw [Json.nat, Decode.below, if_pos hn, Int.toNat_natCast]

instance : Lawful UInt64 where
  decode_encode n := by
    change Decode.word64 (.nat n.toNat) = .ok n
    rw [Decode.word64, below_nat n.toNat_lt_size]
    simp [Except.map]
  encode_ne_null _ h := by cases h

instance : Lawful UInt32 where
  decode_encode n := by
    change Decode.word32 (.nat n.toNat) = .ok n
    rw [Decode.word32, below_nat n.toNat_lt_size]
    simp [Except.map]
  encode_ne_null _ h := by cases h

theorem items_encode [Coded α] [Lawful α] (as : List α) :
    Decode.items (Coded.decode : Decoder α) (as.map Coded.encode) = .ok as := by
  induction as with
  | nil => rfl
  | cons a as ih =>
    rw [List.map_cons, Decode.items, decode_encode, ih]
    rfl

instance [Coded α] [Lawful α] : Lawful (List α) :=
  ⟨items_encode, fun _ h => by cases h⟩

/-- A value or none is read as it was written, `null` for none. -/
theorem decode_encode_option [Coded α] [Lawful α] (o : Option α) :
    Coded.decode (Coded.encode o) = .ok o := by
  cases o with
  | none => rfl
  | some a =>
    change Decode.option Coded.decode (Coded.encode a) = _
    rw [Decode.option, decode_encode]
    · rfl
    · exact encode_ne_null a

/-! ## Types that are written as another one -/

/-- A value that is written as a part of it, from which it is made again. -/
theorem Lawful.part [Coded α] [Coded β] [Lawful β] (make : β → α) (part : α → β)
    (made : ∀ a, make (part a) = a) (encode : ∀ a, Coded.encode a = Coded.encode (part a))
    (decode : ∀ j, (Coded.decode j : Except DecodeError α) = (Coded.decode j).map make) :
    Lawful α where
  decode_encode a := by
    rw [encode, decode, decode_encode, Except.map, made]
  encode_ne_null a := by
    rw [encode]
    exact encode_ne_null _

theorem text_eq_ok_iff {parse : String → Except FormatError α} {j : Json} {a : α} :
    Decode.text parse j = .ok a ↔ ∃ s, j = .str s ∧ parse s = .ok a := by
  constructor
  · intro h
    cases j with
    | str s =>
      refine ⟨s, rfl, ?_⟩
      simp only [Decode.text, Decode.string, bind, Except.bind] at h
      cases hs : parse s with
      | ok b =>
        rw [hs] at h
        cases h
        rfl
      | error e =>
        rw [hs] at h
        cases h
    | _ => cases h
  · rintro ⟨s, rfl, hs⟩
    simp [Decode.text, Decode.string, hs, bind, Except.bind, pure, Except.pure]

/-- A value that is written as its text. -/
theorem Lawful.text [Coded α] (parse : String → Except FormatError α) (text : α → String)
    (parsed : ∀ a, parse (text a) = .ok a) (encode : ∀ a, Coded.encode a = .str (text a))
    (decode : ∀ j, (Coded.decode j : Except DecodeError α) = Decode.text parse j) :
    Lawful α where
  decode_encode a := by
    rw [encode, decode]
    exact text_eq_ok_iff.2 ⟨text a, rfl, parsed a⟩
  encode_ne_null a h := by
    rw [encode] at h
    cases h

end Coded

/-- A value that is written as its name, if each name finds its value. -/
theorem Variants.lawful {α : Type} [Variants α]
    (found : ∀ a : α, Variants.ofName? (Variants.name a) = some a) : Coded.Lawful α where
  decode_encode a := by
    change Variants.decode.named (Variants.name a) = .ok a
    rw [Variants.decode.named, found]
  encode_ne_null _ h := by cases h

end Proofing
