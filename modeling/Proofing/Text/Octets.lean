/-
  Proofing — texts as octets.

  A text is sent as its UTF-8 octets.  Octets that come back need not be UTF-8,
  so what is read from them is a list of optional characters: `none` stands for
  an octet that belongs to no character (`Source`).

  * `octets` and `String.fromUTF8?` are inverse;
  * a character of ASCII has one octet, which is its number, and the octets of any
    other begin beyond ASCII (`octets_of_ascii`, `ascii_of_octets`);
  * `Source.ofOctets_octets`: the octets of a text read as its characters.
-/
namespace Proofing.Text

/-- The UTF-8 octets of a text. -/
def octets (s : String) : List UInt8 :=
  s.toUTF8.data.toList

theorem octets_ofList (cs : List Char) :
    octets (String.ofList cs) = cs.flatMap String.utf8EncodeChar := by
  simp [octets, String.ofList, List.utf8Encode]

theorem utf8EncodeChar_of_ascii {c : Char} (h : c.toNat < 128) :
    String.utf8EncodeChar c = [UInt8.ofNat c.toNat] := by
  unfold String.utf8EncodeChar
  exact if_pos (Nat.le_of_lt_succ h)

theorem utf8EncodeChar_of_not_ascii {c : Char} (h : ¬ c.toNat < 128) :
    ∃ o os, String.utf8EncodeChar c = o :: os ∧ 128 ≤ o.toNat := by
  have beyond : ¬ c.val.toNat ≤ 127 := fun h' => h (Nat.lt_succ_of_le h')
  simp only [String.utf8EncodeChar, if_neg beyond]
  split
  · exact ⟨_, _, rfl, by simp; omega⟩
  · split
    · exact ⟨_, _, rfl, by simp; omega⟩
    · exact ⟨_, _, rfl, by simp; omega⟩

theorem octets_of_ascii {cs : List Char} (h : ∀ c ∈ cs, c.toNat < 128) :
    octets (String.ofList cs) = cs.map fun c => UInt8.ofNat c.toNat := by
  rw [octets_ofList]
  induction cs with
  | nil => rfl
  | cons c cs ih =>
    obtain ⟨hc, hcs⟩ := List.forall_mem_cons.1 h
    rw [List.flatMap_cons, utf8EncodeChar_of_ascii hc, ih hcs]
    rfl

theorem ascii_of_octets {cs : List Char} (h : ∀ o ∈ octets (String.ofList cs), o.toNat < 128) :
    ∀ c ∈ cs, c.toNat < 128 := by
  intro c hc
  refine Decidable.byContradiction fun beyond => ?_
  obtain ⟨o, os, hos, ho⟩ := utf8EncodeChar_of_not_ascii beyond
  have mem : o ∈ octets (String.ofList cs) := by
    rw [octets_ofList]
    exact List.mem_flatMap.2 ⟨c, hc, hos ▸ List.mem_cons_self⟩
  exact absurd (h o mem) (Nat.not_lt.2 ho)

/-- What holds of the first 128 characters holds of every character of ASCII. -/
@[elab_as_elim]
theorem forall_ascii {P : Char → Prop} (h : ∀ n : Fin 128, P (Char.ofNat n)) (c : Char)
    (hc : c.toNat < 128) : P c := by
  have hn := h ⟨c.toNat, hc⟩
  rwa [Char.ofNat_toNat] at hn

/-- Characters as they are read, `none` for an octet that belongs to no character. -/
abbrev Source := List (Option Char)

namespace Source

/-- The characters of a text. -/
def ofString (s : String) : Source :=
  s.toList.map some

/-- The characters from position `i` on; an octet where none can be decoded is passed alone. -/
def decodeFrom (bytes : ByteArray) (i : Nat) : Source :=
  if i < bytes.size then
    match bytes.utf8DecodeChar? i with
    | some c => some c :: decodeFrom bytes (i + max 1 c.utf8Size)
    | none => none :: decodeFrom bytes (i + 1)
  else []
termination_by bytes.size - i

/-- The characters that octets stand for. -/
def ofOctets (bytes : List UInt8) : Source :=
  match String.fromUTF8? ⟨bytes.toArray⟩ with
  | some s => ofString s
  | none => decodeFrom ⟨bytes.toArray⟩ 0

theorem ofOctets_octets (s : String) : ofOctets (octets s) = ofString s := by
  have h : String.fromUTF8? ⟨(octets s).toArray⟩ = some s := by
    simp only [octets, Array.toArray_toList]
    simp only [String.fromUTF8?, String.toUTF8_eq_toByteArray, dif_pos s.isValidUTF8]
    rfl
  simp [ofOctets, h]

end Source

end Proofing.Text
