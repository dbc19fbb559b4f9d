import Proofing.Proofs.Session.Access
/-
  Proofing — the laws of reading and writing an attribute.

  All attributes but the sides of the phone check have a place of their own.  The
  two sides are views of one state, and still they behave as if they had one each,
  except that the vendor's takes the user's down with it.

  * `get_set_of_ne`: a write is seen in its own attribute alone;
  * `set_get`: writing what is read changes nothing;
  * `set_get_set`: what is read of a value stands for it, wherever it is written;
  * `exists_set_of_get`, `set_userPhone_bool`: what is taken, and what is refused of
    the user;
  * `set_lawful`: so it is with every attribute, in every state.
-/
namespace Proofing

namespace Attributes
variable {as as' : Attributes} {a b : Attribute} {value : Option Json}

/-! ## Reading after a write -/

/-- A write is seen in no other attribute, but that the user's confirmation goes with the vendor's
    match. -/
theorem get_set_of_ne (h : as.set a value = .ok as') (hb : b ≠ a)
    (kept : a = .vendorPhone → b = .userPhone → value = some (.bool true)) :
    as'.get b = as.get b := by
  rcases set_cases h with ⟨s, x, rfl, -, rfl, -⟩ | ⟨rfl, x, hread, rfl⟩ |
    ⟨rfl, x, p, -, hp, rfl⟩
  · exact get_put_of_ne as x hb
  · cases b with
    | slot t => rfl
    | vendorPhone => exact absurd rfl hb
    | userPhone =>
      have hvalue := kept rfl rfl
      rw [← read_eq_bool_iff (a := .vendorPhone), hread] at hvalue
      cases hvalue
      rw [get_userPhone, PhoneCheck.user_withVendor, if_pos rfl, get_userPhone]
  · cases b with
    | slot t => rfl
    | userPhone => exact absurd rfl hb
    | vendorPhone => rw [get_vendorPhone, (PhoneCheck.sides_of_withUser hp).1, get_vendorPhone]

/-- Without the vendor's match there is no confirmation by the user. -/
theorem get_userPhone_set (h : as.set .vendorPhone value = .ok as')
    (other : value ≠ some (.bool true)) : as'.get .userPhone = none := by
  rcases set_cases h with ⟨s, x, e, -⟩ | ⟨-, x, hread, rfl⟩ | ⟨e, -⟩
  · cases e
  · have hx : x ≠ some true := by
      rintro rfl
      exact other (read_eq_bool_iff.1 hread)
    rw [get_userPhone, PhoneCheck.user_withVendor, if_neg hx]
    rfl
  · cases e

/-! ## Writing what is read -/

theorem setProfileId_self (as : Attributes) : as.setProfileId as.profileId = .ok as := by
  unfold setProfileId
  cases h : as.profileId with
  | none => simp only [put_of_held h]
  | some id => simp only [if_true, put_of_held h]

/-- Writing what is read changes nothing. -/
theorem set_get (as : Attributes) (a : Attribute) : as.set a (as.get a) = .ok as := by
  cases a with
  | slot s =>
    have hread : read (.slot s) (as.get (.slot s)) = .ok (as.held s) := read_map_encode _ _
    by_cases hs : s = .profileId
    · subst hs
      rw [set_profileId, hread]
      exact as.setProfileId_self
    · rw [set_slot hs, hread]
      exact congrArg Except.ok (put_of_held rfl)
  | vendorPhone =>
    have hread : read .vendorPhone (as.get .vendorPhone) = .ok as.phone.vendor :=
      read_map_encode _ _
    rw [set, hread]
    change Except.ok { as with phone := as.phone.withVendor as.phone.vendor } = _
    rw [PhoneCheck.withVendor_vendor]
  | userPhone =>
    have hread : read .userPhone (as.get .userPhone) = .ok as.phone.user := read_map_encode _ _
    simp only [set, hread, bind, Except.bind, PhoneCheck.withUser_user]
    rfl

/-- Of a value, a write takes no more than what is read of it. -/
theorem set_slot_congr {s : Slot} {value' : Option Json}
    (same : (read (.slot s) value : Except FlowError (Option s.Value)) = read (.slot s) value')
    (as : Attributes) : as.set (.slot s) value = as.set (.slot s) value' := by
  by_cases hs : s = .profileId
  · subst hs
    rw [set_profileId, set_profileId, same]
  · rw [set_slot hs, set_slot hs, same]

/-- A side that is written shows the very truth value that was written. -/
theorem get_side_set (h : as.set a value = .ok as') (side : a = .vendorPhone ∨ a = .userPhone)
    {w : Json} (hw : as'.get a = some w) : value = some w := by
  have written {x : Option Bool} (hread : (read a value : Except FlowError (Option Bool)) = .ok x)
      (hx : x.map Coded.encode = some w) : value = some w := by
    obtain ⟨b, rfl, rfl⟩ := Option.map_eq_some_iff.1 hx
    exact read_eq_bool_iff.1 hread
  rcases set_cases h with ⟨s, x, rfl, -⟩ | ⟨rfl, x, hread, rfl⟩ | ⟨rfl, x, p, hread, hp, rfl⟩
  · rcases side with e | e <;> cases e
  · rw [get_vendorPhone, PhoneCheck.vendor_withVendor] at hw
    exact written hread hw
  · rw [get_userPhone, (PhoneCheck.sides_of_withUser hp).2] at hw
    exact written hread hw

/-- What is shown of a value stands for it: written in its place, it does the same everywhere. -/
theorem set_get_set (h : as.set a value = .ok as') {w : Json} (hw : as'.get a = some w)
    (other : Attributes) : other.set a (some w) = other.set a value := by
  rcases set_cases h with ⟨s, x, rfl, hread, rfl, -⟩ | ⟨rfl, -⟩ | ⟨rfl, -⟩
  · rw [get_put_self] at hw
    refine set_slot_congr ?_ other
    rw [hread, ← hw]
    exact read_map_encode _ x
  · rw [get_side_set h (.inl rfl) hw]
  · rw [get_side_set h (.inr rfl) hw]

/-! ## What is taken -/

theorem get_vendorPhone_eq_true_iff :
    as.get .vendorPhone = some (.bool true) ↔ as.phone.vendor = some true := by
  rw [get_vendorPhone]
  cases as.phone <;> simp [PhoneCheck.vendor, Coded.encode]

/-- The user's confirmation is taken on top of the vendor's match. -/
theorem set_userPhone_true (h : as.get .vendorPhone = some (.bool true)) :
    as.set .userPhone (some (.bool true)) = .ok { as with phone := .userConfirmed } := by
  have hp : as.phone.withUser (some true) = some .userConfirmed :=
    PhoneCheck.withUser_true.2 ⟨get_vendorPhone_eq_true_iff.1 h, rfl⟩
  have hread : (read .userPhone (some (.bool true)) : Except FlowError (Option Bool)) =
      .ok (some true) := rfl
  simp only [set, hread, bind, Except.bind, hp]
  rfl

/-- The user's confirmation is refused without the vendor's match, and a denial always is. -/
theorem set_userPhone_bool (as : Attributes) (b : Bool) :
    (∃ e, as.set .userPhone (some (.bool b)) = .error e) ↔
      b = false ∨ as.get .vendorPhone ≠ some (.bool true) := by
  constructor
  · rintro ⟨e, he⟩
    by_contra! hb
    obtain ⟨hb, hvendor⟩ := hb
    rw [Bool.eq_true_of_not_eq_false hb, set_userPhone_true hvendor] at he
    cases he
  · intro h
    cases hset : as.set .userPhone (some (.bool b)) with
    | error e => exact ⟨e, rfl⟩
    | ok as' =>
      rcases set_cases hset with ⟨s, x, e, -⟩ | ⟨e, -⟩ | ⟨-, x, p, hread, hp, -⟩
      · cases e
      · cases e
      · cases hread
        cases b with
        | false => cases hp
        | true =>
          have hvendor := get_vendorPhone_eq_true_iff.2 (PhoneCheck.withUser_true.1 hp).1
          simp [hvendor] at h

/-- A value that an attribute has anywhere is taken wherever nothing stands against it. -/
theorem exists_set_of_get {source : Attributes} {w : Json} (h : source.get a = some w)
    (free : a = .slot .profileId → as.get a = none)
    (matched : a = .userPhone → as.get .vendorPhone = some (.bool true)) :
    ∃ as', as.set a (some w) = .ok as' ∧ as'.get a = some w := by
  cases a with
  | slot s =>
    have hread : read (.slot s) (some w) = .ok (source.held s) := by
      rw [← h]
      exact read_map_encode _ _
    refine ⟨as.put s (source.held s), ?_, (get_put_self as s _).trans h⟩
    by_cases hs : s = .profileId
    · subst hs
      have hnone : as.held .profileId = none := Option.map_eq_none_iff.1 (free rfl)
      rw [set_slot_of_none hnone, hread]
      rfl
    · rw [set_slot hs, hread]
      rfl
  | vendorPhone =>
    obtain ⟨b, -, rfl⟩ := Option.map_eq_some_iff.1 h
    refine ⟨{ as with phone := as.phone.withVendor (some b) }, rfl, ?_⟩
    rw [get_vendorPhone, PhoneCheck.vendor_withVendor]
    rfl
  | userPhone =>
    obtain ⟨b, hb, rfl⟩ := Option.map_eq_some_iff.1 h
    have hb : b = true := by
      cases hp : source.phone <;> rw [hp] at hb <;> cases hb
      rfl
    subst hb
    exact ⟨_, set_userPhone_true (matched rfl), rfl⟩

/-! ## The laws -/

/-- The laws of an attribute and a value that may be written to it. -/
structure Laws (as : Attributes) (a : Attribute) (value : Option Json) : Prop where
  /-- A write that is refused changes nothing. -/
  refused : ∀ e, as.set a value = .error e → (Access.set a.name value).apply as = as
  /-- A write that is taken changes no other attribute. -/
  apart : ∀ as', as.set a value = .ok as' → ∀ b, b ≠ a →
    (a = .vendorPhone → b = .userPhone → value = some (.bool true)) → as'.get b = as.get b
  /-- But the user's confirmation goes with the vendor's match. -/
  together : ∀ as', as.set a value = .ok as' → a = .vendorPhone → value ≠ some (.bool true) →
    as'.get .userPhone = none
  /-- No value is left where none was written, and only there. -/
  cleared : ∀ as', as.set a value = .ok as' →
    (as'.get a = none ↔ value = none ∨ value = some .null)
  /-- Else there is a value that stands for the one that was written: writing it changes nothing
      here, and does the same as that one everywhere. -/
  kept : ∀ as' w, as.set a value = .ok as' → as'.get a = some w →
    as'.set a (some w) = .ok as' ∧ ∀ other : Attributes, other.set a (some w) = other.set a value
  /-- Writing what is read changes nothing. -/
  same : as.set a (as.get a) = .ok as
  /-- What can be read anywhere can be written, where no other profile and no missing match stand
      against it. -/
  taken : ∀ (source : Attributes) w, source.get a = some w →
    (a = .slot .profileId → as.get a = none) →
    (a = .userPhone → as.get .vendorPhone = some (.bool true)) →
    ∃ as', as.set a (some w) = .ok as' ∧ as'.get a = some w
  /-- Of truth values, the user's side refuses a denial, and a confirmation without a match. -/
  userSide : ∀ b : Bool, (∃ e, as.set .userPhone (some (.bool b)) = .error e) ↔
    b = false ∨ as.get .vendorPhone ≠ some (.bool true)

/-- **Reading and writing an attribute are lawful**, in every state and whatever is written. -/
theorem set_lawful (as : Attributes) (a : Attribute) (value : Option Json) : as.Laws a value := by
  constructor
  case refused =>
    intro e h
    rw [Access.apply, Attribute.ofName?_eq_some_iff.2 rfl]
    simp only [h]
    rfl
  case apart => exact fun as' h b => get_set_of_ne h
  case together =>
    rintro as' h rfl other
    exact get_userPhone_set h other
  case cleared => exact fun as' h => get_set_eq_none_iff h
  case kept =>
    intro as' w h hw
    refine ⟨?_, set_get_set h hw⟩
    rw [← hw, set_get]
  case same => exact set_get as a
  case taken => exact fun source w h free matched => exists_set_of_get h free matched
  case userSide => exact set_userPhone_bool as

end Attributes

end Proofing
