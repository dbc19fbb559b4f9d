import Mathlib.Algebra.Ring.Nat
import Proofing.Attribute.Basic
import Proofing.Phone.Rejected
import Proofing.Proofs.PersonalKey.Grammar
import Proofing.Proofs.Pii
/-
  Proofing — what a session holds is read as it was written.

  Every type of values that a session stores is lawful (`Coded.Lawful`): the
  identifiers of documents, numbers of phones, personal keys, personal data held
  here or elsewhere, and with them the values of every slot.
-/
namespace Proofing

/-! ## Identifiers -/

namespace Uuid

theorem group_cons (n m : Nat) (ns : List Nat) (cs : List Char) :
    group (n :: m :: ns) cs = cs.take n ++ '-' :: group (m :: ns) (cs.drop n) := rfl

theorem ungroup?_group {ns : List Nat} (hne : ns ≠ []) {cs : List Char} (h : cs.length = ns.sum) :
    ungroup? ns (group ns cs) = some cs := by
  induction ns generalizing cs with
  | nil => exact absurd rfl hne
  | cons n ns ih =>
    cases ns with
    | nil =>
      have : cs.length = n := by simpa using h
      rw [group, ungroup?, if_pos this]
    | cons m ns =>
      simp only [List.sum_cons] at h
      have first : (cs.take n).length = n := by simp; omega
      have rest : (cs.drop n).length = (m :: ns).sum := by simp; omega
      replace rest := ih (List.cons_ne_nil m ns) rest
      rw [group_cons, ungroup?, List.drop_left' first]
      · simp only [rest, List.take_left' first, Option.map_some, List.take_append_drop]
      · simp

theorem length_group {ns : List Nat} (hne : ns ≠ []) {cs : List Char} (h : cs.length = ns.sum) :
    (group ns cs).length + 1 = cs.length + ns.length := by
  induction ns generalizing cs with
  | nil => exact absurd rfl hne
  | cons n ns ih =>
    cases ns with
    | nil => rfl
    | cons m ns =>
      simp only [List.sum_cons] at h
      have rest : (cs.drop n).length = (m :: ns).sum := by simp; omega
      replace rest := ih (List.cons_ne_nil m ns) rest
      rw [group_cons]
      simp only [List.length_append, List.length_cons, List.length_take, List.length_drop] at rest ⊢
      omega

theorem length_digits (u : Uuid) : (Hex.encodeChars u.octets).length = groups.sum := by
  have two : ∀ bs : List UInt8, (Hex.encodeChars bs).length = 2 * bs.length := by
    intro bs
    induction bs with
    | nil => rfl
    | cons b bs ih =>
      simp only [Hex.encodeChars, List.flatMap_cons, List.length_append, List.length_cons] at ih ⊢
      simp only [Hex.digits, List.length_cons, List.length_nil]
      omega
  rw [two, u.size]
  rfl

/-- The written form names the identifier. -/
theorem parse?_toString (u : Uuid) : parse? u.toString = some u := by
  have written := length_group (by decide) (length_digits u)
  have length : (group groups (Hex.encodeChars u.octets)).length = 36 := by
    have := length_digits u
    simp only [groups, List.length_cons, List.length_nil, List.sum_cons, List.sum_nil]
      at written this ⊢
    omega
  have digits : digits? (group groups (Hex.encodeChars u.octets)) =
      some (Hex.encodeChars u.octets) := by
    simp [digits?, length, ungroup?_group (by decide) (length_digits u)]
  have octets : ofDigits? (Hex.encodeChars u.octets) = some u := by
    have read : Hex.decode (String.ofList (Hex.encodeChars u.octets)) = .ok u.octets :=
      Hex.decode_encode u.octets
    rw [ofDigits?, read]
    exact dif_pos u.size
  rw [parse?, toString, String.toList_ofList, digits, Option.bind_some, octets]

instance : Coded.Lawful Uuid where
  decode_encode u := by
    change decode (.str u.toString) = .ok u
    rw [decode, parse?_toString]
  encode_ne_null _ h := by cases h

end Uuid

instance : Coded.Lawful ProfileId :=
  .part ProfileId.mk ProfileId.number (fun _ => rfl) (fun _ => rfl) fun _ => rfl

instance : Coded.Lawful Timestamp :=
  .part Timestamp.mk Timestamp.seconds (fun _ => rfl) (fun _ => rfl) fun _ => rfl

/-! ## Names -/

instance : Coded.Lawful Mechanism :=
  Variants.lawful fun m => by cases m <;> rfl

instance : Coded.Lawful CapturePath :=
  Variants.lawful fun p => by cases p <;> rfl

instance : Coded.Lawful DeviceReview :=
  Variants.lawful fun r => by cases r <;> rfl

instance : Coded.Lawful Delivery :=
  Variants.lawful fun d => by cases d <;> rfl

/-! ## Phones and personal keys -/

instance : Coded.Lawful PhoneNumber :=
  .text PhoneNumber.parse PhoneNumber.text PhoneNumber.parse_text (fun _ => rfl) fun _ => rfl

instance : Coded.Lawful RejectedNumbers :=
  .part RejectedNumbers.mk RejectedNumbers.numbers (fun _ => rfl) (fun _ => rfl) fun _ => rfl

theorem SentCode.reads (c : SentCode) : record.Reads
    [("phone", some (Coded.encode c.phone)), ("delivery_method", some (Coded.encode c.delivery)),
      ("sent_at", some (Coded.encode c.sentAt)), ("ttl_secs", some (Coded.encode c.lifetime))] c :=
  ((((Record.reads_field _ c.phone).map SentCode.mk).seq (Record.reads_field _ c.delivery)).seq
    (Record.reads_field _ c.sentAt)).seq (Record.reads_field _ c.lifetime)

instance : Coded.Lawful SentCode where
  decode_encode c := c.reads.decode_ofMembers (by simp) _
  encode_ne_null _ h := by cases h

theorem PhoneEntry.reads (e : PhoneEntry) : record.Reads
    [("phone", some (Coded.encode e.phone)),
      ("otp_delivery_preference", some (Coded.encode e.delivery))] e :=
  ((Record.reads_field _ e.phone).map PhoneEntry.mk).seq (Record.reads_defaulted _ _ e.delivery)

instance : Coded.Lawful PhoneEntry where
  decode_encode e := e.reads.decode_ofMembers (by simp) _
  encode_ne_null _ h := by cases h

instance : Coded.Lawful PersonalKey :=
  .text PersonalKey.parse PersonalKey.text PersonalKey.parse_text (fun _ => rfl) fun _ => rfl

/-! ## Personal data -/

instance : Coded.Lawful Pii where
  decode_encode p := by
    have read := p.reads.decode_ofMembers (by rw [List.map_map]; exact Pii.nodup_names) "Pii"
    rw [← Pii.members_eq] at read
    exact read
  encode_ne_null _ h := by cases h

instance : Coded.Lawful CacheToken :=
  .part CacheToken.mk CacheToken.text (fun _ => rfl) (fun _ => rfl) fun _ => rfl

instance : Coded.Lawful StagedText :=
  .part StagedText.mk StagedText.json (fun _ => rfl) (fun _ => rfl) fun _ => rfl

instance : Coded.Lawful HeldPii where
  decode_encode
    | .reference t => by
      change HeldPii.decode (Coded.encode t) = _
      rw [HeldPii.decode, Coded.decode_encode]
    | .inline p => by
      -- an object is no text, and so no token
      have token :
          ∃ e, (Coded.decode (Coded.encode p) : Except DecodeError CacheToken) = .error e :=
        ⟨_, rfl⟩
      obtain ⟨e, he⟩ := token
      change HeldPii.decode (Coded.encode p) = _
      rw [HeldPii.decode, he, Coded.decode_encode]
  encode_ne_null
    | .reference _, h => by cases h
    | .inline _, h => by cases h

/-! ## Slots -/

instance (s : Slot) : Coded.Lawful s.Value :=
  match s with
  | .addressEdited | .letterCodeVerified | .barcodeAttention | .barcodeUnreadable | .consentGiven
  | .mailOnlyWarningShown | .phoneWithCamera | .redoCapture | .resolutionSuccessful | .skipHandoff
  | .welcomeVisited => (inferInstance : Coded.Lawful Bool)
  | .goBackPath | .mobilePhone | .ssn | .deviceSession => (inferInstance : Coded.Lawful String)
  | .captureSession | .phoneStepCaptureSession | .verifyStepCaptureSession =>
    (inferInstance : Coded.Lawful Uuid)
  | .mechanism => (inferInstance : Coded.Lawful Mechanism)
  | .applicant | .documentPii => (inferInstance : Coded.Lawful Pii)
  | .capturePath => (inferInstance : Coded.Lawful CapturePath)
  | .personalKey => (inferInstance : Coded.Lawful PersonalKey)
  | .pii => (inferInstance : Coded.Lawful HeldPii)
  | .previousPhoneEntry => (inferInstance : Coded.Lawful PhoneEntry)
  | .profileId => (inferInstance : Coded.Lawful ProfileId)
  | .deviceReview => (inferInstance : Coded.Lawful DeviceReview)

end Proofing
