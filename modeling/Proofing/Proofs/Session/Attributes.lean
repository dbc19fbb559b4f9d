import Mathlib.Data.List.Nodup
import Proofing.Attribute.Values
import Proofing.Proofs.Json.Forms
/-
  Proofing — attributes, one by one.

  * An attribute is found by its name and by no other (`ofName?_eq_some_iff`).
  * `set_cases` lists what a write can do; no write changes the number of a profile
    that is there (`profileId_set`). No value is held after a write of nothing or of
    `null`, and after no other (`get_set_eq_none_iff`).
  * Stored values are taken one by one: each attribute has the value that is
    `given` for it, and the phone check is that of its two sides, the user's
    after the vendor's, whatever their order among the members (`ofStored_eq`).
    So what is stored of attributes gives them back (`ofStored_get`).
-/
namespace Proofing

/-! ## Names -/

namespace Attribute

theorem nodup_names : (all.map name).Nodup := by decide

theorem nodup_all : all.Nodup := nodup_names.of_map

theorem name_injective {a b : Attribute} (h : a.name = b.name) : a = b :=
  List.inj_on_of_nodup_map nodup_names (mem_all a) (mem_all b) h

theorem ofName?_eq_some_iff {n : String} {a : Attribute} : ofName? n = some a ↔ a.name = n := by
  constructor
  · intro h
    simpa using List.find?_some h
  · rintro rfl
    cases h : ofName? a.name with
    | none =>
      have := List.find?_eq_none.1 h a (mem_all a)
      simp at this
    | some b =>
      have : b.name = a.name := by simpa using List.find?_some h
      rw [name_injective this]

theorem ofName?_eq_none_iff {n : String} : ofName? n = none ↔ n ∉ all.map name := by
  rw [ofName?, List.find?_eq_none]
  simp

end Attribute

/-! ## Sides -/

/-- The state of the check whose sides have these results; the user's counts only on top of a
    match. -/
def PhoneCheck.ofSides (vendor user : Option Bool) : PhoneCheck :=
  ((notStarted.withVendor vendor).withUser user).getD (notStarted.withVendor vendor)

theorem PhoneCheck.ofSides_sides (p : PhoneCheck) : ofSides p.vendor p.user = p := by
  cases p <;> rfl

/-- The user's confirmation counts with the vendor's match, and only so. -/
theorem PhoneCheck.withUser_true {p q : PhoneCheck} :
    p.withUser (some true) = some q ↔ p.vendor = some true ∧ q = userConfirmed := by
  unfold withUser
  by_cases h : p.vendor = some true <;> simp [h, eq_comm]

theorem PhoneCheck.vendor_withVendor (p : PhoneCheck) (v : Option Bool) :
    (p.withVendor v).vendor = v := by
  rcases v with _ | _ | _
  · rfl
  · rfl
  · cases p <;> rfl

/-- All but a match drop the user's result. -/
theorem PhoneCheck.user_withVendor (p : PhoneCheck) (v : Option Bool) :
    (p.withVendor v).user = if v = some true then p.user else none := by
  rcases v with _ | _ | _
  · rfl
  · rfl
  · cases p <;> rfl

/-- A result of the user that is taken is the user's result, and leaves the vendor's alone. -/
theorem PhoneCheck.sides_of_withUser {p q : PhoneCheck} {v : Option Bool}
    (h : p.withUser v = some q) : q.vendor = p.vendor ∧ q.user = v := by
  rcases v with _ | _ | _
  · cases p <;> cases h <;> exact ⟨rfl, rfl⟩
  · cases h
  · obtain ⟨hp, rfl⟩ := withUser_true.1 h
    exact ⟨hp.symm, rfl⟩

theorem PhoneCheck.withVendor_vendor (p : PhoneCheck) : p.withVendor p.vendor = p := by
  cases p <;> rfl

theorem PhoneCheck.withUser_user (p : PhoneCheck) : p.withUser p.user = some p := by
  cases p <;> rfl

theorem PhoneCheck.vendor_ofSides (v u : Option Bool) : (ofSides v u).vendor = v := by
  rcases v with _ | _ | _ <;> rcases u with _ | _ | _ <;> rfl

theorem PhoneCheck.user_ofSides (v u : Option Bool) :
    (ofSides v u).user = if v = some true ∧ u = some true then some true else none := by
  rcases v with _ | _ | _ <;> rcases u with _ | _ | _ <;> rfl

namespace Attributes

variable {as as' : Attributes}

theorem ext (held : ∀ s, as.held s = as'.held s) (phone : as.phone = as'.phone) : as = as' := by
  cases as; cases as'
  simp only [mk.injEq]
  exact ⟨funext held, phone⟩

theorem put_of_held {s : Slot} {v : Option s.Value} (h : as.held s = v) : as.put s v = as := by
  refine ext (fun t => ?_) rfl
  by_cases e : t = s
  · subst e
    rw [held_put_self, h]
  · rw [held_put_of_ne as v e]

/-! ## Reading an attribute -/

theorem get_put_self (as : Attributes) (s : Slot) (v : Option s.Value) :
    (as.put s v).get (.slot s) = v.map Coded.encode := by
  rw [get, held_put_self]

theorem get_put_of_ne (as : Attributes) {s : Slot} {a : Attribute} (v : Option s.Value)
    (h : a ≠ .slot s) : (as.put s v).get a = as.get a := by
  cases a with
  | slot t => rw [get, get, held_put_of_ne as v fun e => h (congrArg _ e)]
  | userPhone => rfl
  | vendorPhone => rfl

theorem get_userPhone (as : Attributes) : as.get .userPhone = as.phone.user.map Coded.encode := rfl

theorem get_vendorPhone (as : Attributes) :
    as.get .vendorPhone = as.phone.vendor.map Coded.encode := rfl

section
variable {α : Type} [Coded α] {a : Attribute} {value : Option Json}

/-- No value is read from nothing and from `null`, and from nothing else. -/
theorem eq_none_iff_of_read {x : Option α} (h : read a value = .ok x) :
    x = none ↔ value = none ∨ value = some .null := by
  unfold read at h
  split at h
  · cases h; simp
  · cases h; simp
  · rename_i j hnull
    split at h
    · cases h; simpa using hnull
    · cases h

theorem read_map_encode [Coded.Lawful α] (a : Attribute) (v : Option α) :
    read a (v.map Coded.encode) = .ok v := by
  cases v with
  | none => rfl
  | some x =>
    rw [Option.map_some, read, Coded.decode_encode]
    exact fun h => Coded.encode_ne_null x h

/-- A truth value is read from itself alone. -/
theorem read_eq_bool_iff {b : Bool} :
    (read a value : Except FlowError (Option Bool)) = .ok (some b) ↔ value = some (.bool b) := by
  constructor
  · intro h
    unfold read at h
    split at h
    · cases h
    · cases h
    · rename_i j _
      cases j <;> cases h
      rfl
  · rintro rfl
    rfl

end

/-! ## Writing an attribute -/

theorem setProfileId_ok {id : Option ProfileId} (h : as.setProfileId id = .ok as') :
    as' = as.put .profileId id ∧ (as.profileId = none ∨ as.profileId = id) := by
  unfold setProfileId at h
  split at h
  · rename_i existing he
    split at h
    · rename_i hid
      cases h
      exact ⟨rfl, Or.inr (he.trans hid.symm)⟩
    · cases h
  · rename_i he
    cases h
    exact ⟨rfl, Or.inl he⟩

theorem setProfileId_of_none {id : Option ProfileId} (h : as.profileId = none) :
    as.setProfileId id = .ok (as.put .profileId id) := by
  simp only [setProfileId, h]

theorem set_slot {s : Slot} (h : s ≠ .profileId) (value : Option Json) :
    as.set (.slot s) value = (read (.slot s) value).map (as.put s) := by
  rw [set]
  · cases (read (.slot s) value : Except FlowError (Option s.Value)) <;> rfl
  · exact h

theorem set_profileId (value : Option Json) :
    as.set (.slot .profileId) value = (read (.slot .profileId) value).bind as.setProfileId :=
  rfl

/-- A slot without a value takes every value that can be read. -/
theorem set_slot_of_none {s : Slot} (h : as.held s = none) (value : Option Json) :
    as.set (.slot s) value = (read (.slot s) value).map (as.put s) := by
  by_cases hs : s = .profileId
  · subst hs
    rw [set_profileId]
    cases (read (.slot .profileId) value : Except FlowError (Option ProfileId)) with
    | error e => rfl
    | ok id => exact setProfileId_of_none h
  · exact set_slot hs value

/-- All that a write can do: it writes the slot, or takes the result of a side. -/
theorem set_cases {a : Attribute} {value : Option Json} (h : as.set a value = .ok as') :
    (∃ s x, a = .slot s ∧ read (.slot s) value = .ok x ∧ as' = as.put s x ∧
        (s = .profileId → as.held s = none ∨ as.held s = x)) ∨
      (a = .vendorPhone ∧ ∃ x, read .vendorPhone value = .ok x ∧
        as' = { as with phone := as.phone.withVendor x }) ∨
      (a = .userPhone ∧ ∃ x p, read .userPhone value = .ok x ∧ as.phone.withUser x = some p ∧
        as' = { as with phone := p }) := by
  cases a with
  | slot s =>
    refine Or.inl ⟨s, ?_⟩
    by_cases hs : s = .profileId
    · subst hs
      rw [set_profileId] at h
      cases hr : (read (.slot .profileId) value : Except FlowError (Option ProfileId)) with
      | error e => rw [hr] at h; cases h
      | ok x =>
        rw [hr] at h
        obtain ⟨rfl, hid⟩ := setProfileId_ok h
        exact ⟨x, rfl, rfl, rfl, fun _ => hid⟩
    · rw [set_slot hs] at h
      cases hr : (read (.slot s) value : Except FlowError (Option s.Value)) with
      | error e => rw [hr] at h; cases h
      | ok x =>
        rw [hr] at h
        cases h
        exact ⟨x, rfl, rfl, rfl, fun e => absurd e hs⟩
  | vendorPhone =>
    refine Or.inr (Or.inl ⟨rfl, ?_⟩)
    cases hr : (read .vendorPhone value : Except FlowError (Option Bool)) with
    | error e => simp only [set, hr] at h; cases h
    | ok x => simp only [set, hr] at h; cases h; exact ⟨x, rfl, rfl⟩
  | userPhone =>
    refine Or.inr (Or.inr ⟨rfl, ?_⟩)
    cases hr : (read .userPhone value : Except FlowError (Option Bool)) with
    | error e => simp only [set, hr] at h; cases h
    | ok x =>
      cases hp : as.phone.withUser x with
      | none => simp only [set, hr, bind, Except.bind, hp] at h; cases h
      | some p =>
        simp only [set, hr, bind, Except.bind, hp] at h
        cases h
        exact ⟨x, p, rfl, hp, rfl⟩

/-- A write leaves no value where none is written, and only there. -/
theorem get_set_eq_none_iff {a : Attribute} {value : Option Json} (h : as.set a value = .ok as') :
    as'.get a = none ↔ value = none ∨ value = some .null := by
  rcases set_cases h with ⟨s, x, rfl, hread, rfl, -⟩ | ⟨rfl, x, hread, rfl⟩ |
    ⟨rfl, x, p, hread, hp, rfl⟩
  · rw [get_put_self, Option.map_eq_none_iff, eq_none_iff_of_read hread]
  · rw [get_vendorPhone, PhoneCheck.vendor_withVendor, Option.map_eq_none_iff,
      eq_none_iff_of_read hread]
  · rw [get_userPhone, (PhoneCheck.sides_of_withUser hp).2, Option.map_eq_none_iff,
      eq_none_iff_of_read hread]

/-- The number of a profile stays once it is there. -/
theorem profileId_set {a : Attribute} {value : Option Json} {id : ProfileId}
    (h : as.set a value = .ok as') (hid : as.profileId = some id) : as'.profileId = some id := by
  rcases set_cases h with ⟨s, x, -, -, rfl, hkept⟩ | ⟨-, x, -, rfl⟩ | ⟨-, x, p, -, -, rfl⟩
  · by_cases hs : s = .profileId
    · subst hs
      -- it can only be written again
      rcases hkept rfl with h | h
      · cases h.symm.trans hid
      · rw [profileId, held_put_self, ← h, ← hid, profileId]
    · rw [profileId, held_put_of_ne _ _ (Ne.symm hs)]
      exact hid
  · exact hid
  · exact hid

/-! ## Taking stored values -/

/-- The value that stored values give an attribute; none where it is absent, `null` or none of its
    own. -/
def given {α : Type} [Coded α] (stored : Members Json) (a : Attribute) : Option α :=
  (Members.find? a.name stored).bind fun j => ((read a (some j)).toOption).join

theorem given_encode {α : Type} [Coded α] [Coded.Lawful α] {stored : Members Json} {a : Attribute}
    {v : Option α} (h : Members.find? a.name stored = v.map Coded.encode) :
    given stored a = v := by
  cases v with
  | none => rw [given, h]; rfl
  | some v =>
    have hread : read a (some (Coded.encode v)) = .ok (some v) := read_map_encode a (some v)
    rw [given, h, Option.map_some, Option.bind_some, hread]
    rfl

variable {stored : Members Json}

theorem given_eq_read {α : Type} [Coded α] (stored : Members Json) (a : Attribute) :
    (given stored a : Option α) = (read a (Members.find? a.name stored)).toOption.join := by
  unfold given
  cases Members.find? a.name stored <;> rfl

theorem given_eq_true_iff {a : Attribute} :
    given stored a = some true ↔ Members.find? a.name stored = some (.bool true) := by
  rw [← read_eq_bool_iff (a := a), given_eq_read]
  cases (read a (Members.find? a.name stored) : Except FlowError (Option Bool)) <;>
    simp [Except.toOption]

/-- Taking a value is a write of it, or nothing. -/
theorem accept_cases (as : Attributes) (stored : Members Json) (a : Attribute) :
    as.accept stored a = as ∨ ∃ j, as.set a (some j) = .ok (as.accept stored a) := by
  unfold accept
  cases Members.find? a.name stored with
  | none => exact Or.inl rfl
  | some j =>
    cases h : as.set a (some j) with
    | error e => exact Or.inl (by simp [h, Except.toOption])
    | ok as' => exact Or.inr ⟨j, by simp [h, Except.toOption]⟩

theorem held_accept_of_ne {a : Attribute} {s : Slot} (h : a ≠ .slot s) :
    (as.accept stored a).held s = as.held s := by
  rcases accept_cases as stored a with e | ⟨j, hj⟩
  · rw [e]
  · rcases set_cases hj with ⟨t, x, rfl, -, e, -⟩ | ⟨-, x, -, e⟩ | ⟨-, x, p, -, -, e⟩
    · rw [e, held_put_of_ne _ _ fun e' => h (congrArg _ e'.symm)]
    · rw [e]
    · rw [e]

theorem phone_accept_slot (s : Slot) : (as.accept stored (.slot s)).phone = as.phone := by
  rcases accept_cases as stored (.slot s) with e | ⟨j, hj⟩
  · rw [e]
  · rcases set_cases hj with ⟨t, x, -, -, e, -⟩ | ⟨h, -⟩ | ⟨h, -⟩
    · rw [e, phone_put]
    · cases h
    · cases h

theorem accept_slot {s : Slot} (h : as.held s = none) :
    as.accept stored (.slot s) = as.put s (given stored (.slot s)) := by
  unfold accept given
  cases Members.find? (Attribute.slot s).name stored with
  | none => exact (put_of_held h).symm
  | some j =>
    simp only [set_slot_of_none h, Option.bind_some]
    cases (read (.slot s) (some j) : Except FlowError (Option s.Value)) with
    | error e => exact (put_of_held h).symm
    | ok x => rfl

theorem phone_accept_vendor (h : as.phone = .notStarted) :
    (as.accept stored .vendorPhone).phone =
      PhoneCheck.notStarted.withVendor (given stored .vendorPhone) := by
  unfold accept given
  cases Members.find? Attribute.vendorPhone.name stored with
  | none => exact h
  | some j =>
    simp only [set, Option.bind_some]
    cases (read .vendorPhone (some j) : Except FlowError (Option Bool)) with
    | error e => exact h
    | ok x =>
      change as.phone.withVendor x = PhoneCheck.notStarted.withVendor x
      rw [h]

theorem phone_accept_user (h : as.phone ≠ .userConfirmed) :
    (as.accept stored .userPhone).phone =
      (as.phone.withUser (given stored .userPhone)).getD as.phone := by
  have unset : as.phone.withUser none = some as.phone := by simp [PhoneCheck.withUser, h]
  unfold accept given
  cases Members.find? Attribute.userPhone.name stored with
  | none => simp [unset]
  | some j =>
    simp only [set, Option.bind_some]
    cases (read .userPhone (some j) : Except FlowError (Option Bool)) with
    | error e => simp [bind, Except.bind, Except.toOption, unset]
    | ok x =>
      simp only [bind, Except.bind, Except.toOption, Option.join_some]
      cases as.phone.withUser x <;> rfl

theorem held_foldl_accept {l : List Attribute} (distinct : l.Nodup) (s : Slot)
    (h : .slot s ∈ l → as.held s = none) :
    (l.foldl (fun as a => as.accept stored a) as).held s =
      if .slot s ∈ l then given stored (.slot s) else as.held s := by
  induction l generalizing as with
  | nil => simp
  | cons a l ih =>
    obtain ⟨hnew, hrest⟩ := List.nodup_cons.1 distinct
    by_cases ha : a = .slot s
    · subst ha
      -- its turn comes once, and the others leave it alone
      rw [List.foldl_cons, ih hrest fun hl => absurd hl hnew, if_neg hnew,
        accept_slot (h List.mem_cons_self), held_put_self, if_pos List.mem_cons_self]
    · have hs : Attribute.slot s ∈ a :: l ↔ Attribute.slot s ∈ l := by
        simp [Ne.symm ha]
      rw [List.foldl_cons, ih hrest fun hl => by rw [held_accept_of_ne ha, h (hs.2 hl)],
        held_accept_of_ne ha]
      simp only [hs]

theorem phone_foldl_accept {l : List Attribute} (distinct : l.Nodup) (noUser : .userPhone ∉ l)
    (h : .vendorPhone ∈ l → as.phone = .notStarted) :
    (l.foldl (fun as a => as.accept stored a) as).phone =
      if .vendorPhone ∈ l then PhoneCheck.notStarted.withVendor (given stored .vendorPhone)
      else as.phone := by
  induction l generalizing as with
  | nil => simp
  | cons a l ih =>
    obtain ⟨hnew, hrest⟩ := List.nodup_cons.1 distinct
    have noUser' : Attribute.userPhone ∉ l := fun hl => noUser (List.mem_cons_of_mem _ hl)
    cases a with
    | slot s =>
      rw [List.foldl_cons, ih hrest noUser' fun hl => by
        rw [phone_accept_slot, h (List.mem_cons_of_mem _ hl)], phone_accept_slot]
      simp
    | vendorPhone =>
      rw [List.foldl_cons, ih hrest noUser' fun hl => absurd hl hnew, if_neg hnew,
        phone_accept_vendor (h List.mem_cons_self), if_pos List.mem_cons_self]
    | userPhone => exact absurd List.mem_cons_self noUser

/-- **Stored values are taken one by one.** -/
theorem ofStored_eq (stored : Members Json) :
    ofStored stored = ⟨fun s => given stored (.slot s),
      .ofSides (given stored .vendorPhone) (given stored .userPhone)⟩ := by
  have noUser : Attribute.userPhone ∉ Attribute.all.filter (· ≠ .userPhone) := by simp
  have others {a : Attribute} (h : a ≠ .userPhone) :
      a ∈ Attribute.all.filter (· ≠ .userPhone) := by simp [Attribute.mem_all, h]
  have distinct := Attribute.nodup_all.filter (· ≠ .userPhone)
  have vendor := @phone_foldl_accept empty stored _ distinct noUser fun _ => rfl
  rw [if_pos (others (by simp))] at vendor
  unfold ofStored order
  rw [List.foldl_append, List.foldl_cons, List.foldl_nil]
  refine ext (fun s => ?_) ?_
  · rw [held_accept_of_ne (by simp), held_foldl_accept distinct s fun _ => rfl,
      if_pos (others (by simp))]
  · rw [phone_accept_user]
    · rw [vendor]
      rfl
    · rw [vendor]
      cases (given stored .vendorPhone : Option Bool) with
      | none => simp [PhoneCheck.withVendor]
      | some b => cases b <;> simp [PhoneCheck.withVendor]

/-- What an attribute shows when a value is written where there are no values yet; none where the
    value is refused. -/
def alone (a : Attribute) (value : Option Json) : Option Json :=
  (empty.set a value).toOption.bind fun as => as.get a

theorem alone_eq_none_iff {a : Attribute} {value : Option Json} :
    alone a value = none ↔
      value = none ∨ value = some .null ∨ ∃ e, empty.set a value = .error e := by
  unfold alone
  cases h : empty.set a value with
  | error e => simp [Except.toOption]
  | ok as =>
    have hnone : as.get a = none ↔ value = none ∨ value = some .null := get_set_eq_none_iff h
    simp [Except.toOption, hnone]

/-- An attribute shows of stored values what it would show of its own one alone; the user's
    confirmation is the only one that counts with another. -/
theorem get_ofStored {a : Attribute} (h : a ≠ .userPhone) (stored : Members Json) :
    (ofStored stored).get a = alone a (Members.find? a.name stored) := by
  rw [ofStored_eq]
  cases a with
  | slot s =>
    change (given stored (.slot s)).map Coded.encode = _
    rw [given_eq_read, alone, set_slot_of_none rfl]
    cases (read (.slot s) (Members.find? (Attribute.slot s).name stored) :
        Except FlowError (Option s.Value)) with
    | error e => rfl
    | ok x => exact (get_put_self empty s x).symm
  | vendorPhone =>
    rw [get_vendorPhone, PhoneCheck.vendor_ofSides, given_eq_read, alone, set]
    cases (read .vendorPhone (Members.find? Attribute.vendorPhone.name stored) :
        Except FlowError (Option Bool)) with
    | error e => rfl
    | ok x => exact congrArg _ (PhoneCheck.vendor_withVendor _ x).symm
  | userPhone => exact absurd rfl h

/-- The user's confirmation is there where both sides are stored as confirmed, and else it is not. -/
theorem get_ofStored_userPhone (stored : Members Json) :
    (Members.find? Attribute.vendorPhone.name stored = some (.bool true) ∧
        Members.find? Attribute.userPhone.name stored = some (.bool true) →
      (ofStored stored).get .userPhone = some (.bool true)) ∧
    (¬ (Members.find? Attribute.vendorPhone.name stored = some (.bool true) ∧
        Members.find? Attribute.userPhone.name stored = some (.bool true)) →
      (ofStored stored).get .userPhone = none) := by
  rw [ofStored_eq, get_userPhone, PhoneCheck.user_ofSides, ← given_eq_true_iff, ← given_eq_true_iff]
  constructor <;> intro h
  · rw [if_pos h]
    rfl
  · rw [if_neg h]
    rfl

/-- **What is stored of attributes gives them back.** -/
theorem ofStored_get (h : ∀ a, Members.find? a.name stored = as.get a) : ofStored stored = as := by
  rw [ofStored_eq]
  refine ext (fun s => given_encode (h (.slot s))) ?_
  have vendor : given stored .vendorPhone = as.phone.vendor := given_encode (h .vendorPhone)
  have user : given stored .userPhone = as.phone.user := given_encode (h .userPhone)
  rw [vendor, user, PhoneCheck.ofSides_sides]

end Attributes

end Proofing
