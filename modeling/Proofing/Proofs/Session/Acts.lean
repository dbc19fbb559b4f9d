import Mathlib.Data.List.Induction
import Proofing.Proofs.Session.Access
import Proofing.Session.Reset
/-
  Proofing — what is done with a session before its profile is made.

  A `Run` takes acts one after another, from a session in which nothing has
  happened; a refused act leaves everything as it is.

  * `perform_cases`: an act is a write by name, a reset, or aside;
  * `run_induct`: what holds at the start and is kept by every act that is taken
    holds after every run;
  * `perform_frame`: which parts of a session an act can change, and so a session
    stays under its settings (`under_perform`);
  * `profileId_perform`: the number of a profile stays once it is there;
  * `turn_of_perform`: what an act does to the check of the phone.
-/
namespace Proofing

/-- Something that is done with a session. -/
inductive Act where
  | set (name : String) (value : Option Json)
  | reset (r : Reset)
  | markResolved
  | confirmAddress
  | sendCode (code : Option SentCode)
  | noteRejected (normalizer : Normalizer) (raw : String)
  | acknowledgeKey
  /-- A request ends and the next one begins. -/
  | reload (web : WebSession)

namespace Act

/-- The vendor's match is written. -/
def vendorConfirms : Act :=
  .set Attribute.vendorPhone.name (some (.bool true))

/-- The user's confirmation is written. -/
def userConfirms : Act :=
  .set Attribute.userPhone.name (some (.bool true))

/-- The act drops the check of the phone: another result of the vendor is written, or a step up to
    the phone is reset. -/
def DropsPhone : Act → Prop
  | set name value => name = Attribute.vendorPhone.name ∧ value ≠ some (.bool true)
  | reset .afterSsn | reset .afterResolution | reset .phone => True
  | _ => False

/-- The act writes the user's side. -/
def WritesUser : Act → Prop
  | set name _ => name = Attribute.userPhone.name
  | _ => False

end Act

namespace Session
variable {config : Config} {s s' : Session} {a : Act}

/-- The session after an act; none if the act is refused.  A reset counts even where the session is
    locked and nothing changes. -/
def perform (config : Config) (s : Session) : Act → Option Session
  | .set name value => (s.set name value).toOption
  | .reset r => some (s.reset r).2
  | .markResolved => some s.markResolved
  | .confirmAddress => some s.confirmAddress
  | .sendCode code => some { s with sentCode := code }
  | .noteRejected normalizer raw => (s.noteRejected normalizer raw).toOption.map (·.2)
  | .acknowledgeKey => some s.acknowledgeKey
  | .reload web => some (load (s.store web) config)

/-! ## One act -/

theorem perform_set {name : String} {value : Option Json}
    (h : perform config s (.set name value) = some s') : s.set name value = .ok s' := by
  change (s.set name value).toOption = some s' at h
  cases hs : s.set name value <;> rw [hs] at h <;> cases h
  rfl

/-- To note a number changes the record of numbers alone. -/
theorem perform_noteRejected {normalizer : Normalizer} {raw : String}
    (h : perform config s (.noteRejected normalizer raw) = some s') : ∃ isNew rejected,
      s.rejected.note normalizer raw = .ok (isNew, rejected) ∧ s' = { s with rejected } := by
  obtain ⟨⟨isNew, t⟩, ht, rfl⟩ := Option.map_eq_some_iff.1 h
  unfold noteRejected at ht
  cases hn : s.rejected.note normalizer raw <;> rw [hn] at ht <;> cases ht
  exact ⟨_, _, rfl, rfl⟩

theorem set_ok {name : String} {value : Option Json} (h : s.set name value = .ok s') :
    (name ∉ Attribute.all.map Attribute.name ∧ s' = s) ∨
      ∃ a as, a.name = name ∧ s.attributes.set a value = .ok as ∧
        s' = { s with attributes := as } := by
  cases ha : Attribute.ofName? name with
  | none =>
    rw [set_of_unknown ha] at h
    cases hu : s.unknownNames.answer name <;> rw [hu] at h <;> cases h
    exact Or.inl ⟨Attribute.ofName?_eq_none_iff.1 ha, rfl⟩
  | some a =>
    rw [set_of_known ha] at h
    cases has : s.attributes.set a value <;> rw [has] at h <;> cases h
    exact Or.inr ⟨a, _, Attribute.ofName?_eq_some_iff.1 ha, has, rfl⟩

/-- Neither the check of the phone nor the number of the profile changes. -/
structure Aside (config : Config) (s s' : Session) : Prop where
  phone : s'.attributes.phone = s.attributes.phone
  profileId : s'.profileId = s.profileId
  under : s'.Under config

theorem aside_put {slot : Slot} (h : slot ≠ .profileId) (v : Option slot.Value)
    (under : s.Under config) : Aside config s (s.put slot v) :=
  ⟨rfl, Attributes.held_put_of_ne _ _ h.symm, under.update ..⟩

/-- Acts that are neither a write by name nor a reset are aside. -/
theorem perform_cases (h : perform config s a = some s') (under : s.Under config) :
    (∃ name value, a = .set name value ∧ s.set name value = .ok s') ∨
      (∃ r, a = .reset r ∧ s' = (s.reset r).2) ∨
      ¬ a.DropsPhone ∧ ¬ a.WritesUser ∧ Aside config s s' := by
  cases a with
  | set name value => exact Or.inl ⟨name, value, rfl, perform_set h⟩
  | reset r => cases h; exact Or.inr (Or.inl ⟨r, rfl, rfl⟩)
  | markResolved =>
    cases h; exact Or.inr (Or.inr ⟨not_false, not_false, aside_put (by decide) _ under⟩)
  | confirmAddress =>
    cases h; exact Or.inr (Or.inr ⟨not_false, not_false, aside_put (by decide) _ under⟩)
  | sendCode code =>
    obtain ⟨h₁, h₂, h₃⟩ := under
    cases h; exact Or.inr (Or.inr ⟨not_false, not_false, rfl, rfl, h₁, h₂, h₃⟩)
  | noteRejected normalizer raw =>
    obtain ⟨_, rejected, -, rfl⟩ := perform_noteRejected h
    obtain ⟨h₁, h₂, h₃⟩ := under
    exact Or.inr (Or.inr ⟨not_false, not_false, rfl, rfl, h₁, h₂, h₃⟩)
  | acknowledgeKey =>
    cases h; exact Or.inr (Or.inr ⟨not_false, not_false, aside_put (by decide) _ under⟩)
  | reload web =>
    cases h
    refine Or.inr (Or.inr ⟨not_false, not_false, ?_, ?_, under_load _ _⟩)
    · rw [load_store_eq under]
    · rw [load_store_eq under]; rfl

/-- A reset drops nothing of a session with a profile. -/
theorem reset_of_profileId {id : ProfileId} (h : s.profileId = some id) (r : Reset) :
    s.reset r = (.locked, s) := by
  simp [reset, h]

theorem reset_of_none (h : s.profileId = none) (r : Reset) : s.reset r = (.cleared, s.drop r) := by
  simp [reset, h]

/-- An act leaves alone what is staged, the nonce and the settings.  The name of the web session
    changes only where the session is loaded from another one, the record of rejected numbers only
    where a number is noted. -/
theorem perform_frame (h : perform config s a = some s') (under : s.Under config) :
    ∃ id attributes sentCode rejected visitPii,
      s' = { s with id, attributes, sentCode, rejected, visitPii } ∧
      (id = s.id ∨ ∃ web, a = .reload web ∧ id = web.id) ∧
      (rejected = s.rejected ∨ ∃ normalizer raw, a = .noteRejected normalizer raw) := by
  cases a with
  | set name value =>
    rcases set_ok (perform_set h) with ⟨-, rfl⟩ | ⟨_, _, -, -, rfl⟩ <;>
      exact ⟨_, _, _, _, _, rfl, Or.inl rfl, Or.inl rfl⟩
  | reset r =>
    cases h
    cases hid : s.profileId with
    | some _ =>
      rw [reset_of_profileId hid]
      exact ⟨_, _, _, _, _, rfl, Or.inl rfl, Or.inl rfl⟩
    | none =>
      rw [reset_of_none hid]
      cases r <;> exact ⟨_, _, _, _, _, rfl, Or.inl rfl, Or.inl rfl⟩
  | noteRejected normalizer raw =>
    obtain ⟨_, _, -, rfl⟩ := perform_noteRejected h
    exact ⟨_, _, _, _, _, rfl, Or.inl rfl, Or.inr ⟨normalizer, raw, rfl⟩⟩
  | reload web =>
    cases h
    rw [load_store_eq under]
    exact ⟨_, _, _, _, _, rfl, Or.inr ⟨web, rfl, rfl⟩, Or.inl rfl⟩
  | markResolved | confirmAddress | sendCode | acknowledgeKey =>
    cases h
    exact ⟨_, _, _, _, _, rfl, Or.inl rfl, Or.inl rfl⟩

/-- A session stays under its settings. -/
theorem under_perform (h : perform config s a = some s') (under : s.Under config) :
    s'.Under config := by
  obtain ⟨_, _, _, _, _, rfl, -⟩ := perform_frame h under
  exact under.update ..

/-- The number of a profile stays once it is there. -/
theorem profileId_perform {id : ProfileId} (h : perform config s a = some s')
    (under : s.Under config) (hid : s.profileId = some id) : s'.profileId = some id := by
  rcases perform_cases h under with ⟨name, value, -, hs⟩ | ⟨r, -, rfl⟩ | ⟨-, -, haside⟩
  · rcases set_ok hs with ⟨-, rfl⟩ | ⟨b, as, -, has, rfl⟩
    · exact hid
    · exact Attributes.profileId_set has hid
  · rw [reset_of_profileId hid]
    exact hid
  · rw [haside.profileId, hid]

/-! ## The check of the phone -/

/-- What an act makes of the check of the phone. -/
inductive Turn (a : Act) (p q : PhoneCheck) : Prop
  | matched (ha : a = .vendorConfirms) (hq : q = p.withVendor (some true))
  | dropped (ha : a.DropsPhone) (hq : q.vendor ≠ some true)
  | confirmed (ha : a = .userConfirms) (hp : p.vendor = some true) (hq : q = .userConfirmed)
  | unconfirmed (ha : ¬ a.DropsPhone) (hq : q = if p = .userConfirmed then .vendorConfirmed else p)
  | kept (ha : ¬ a.DropsPhone) (hu : ¬ a.WritesUser) (hq : q = p)

theorem turn_of_set {b : Attribute} {value : Option Json} {as as' : Attributes}
    (h : as.set b value = .ok as') : Turn (.set b.name value) as.phone as'.phone := by
  have name_ne {b c : Attribute} (hne : b ≠ c) : b.name ≠ c.name :=
    fun e => hne (Attribute.name_injective e)
  rcases Attributes.set_cases h with ⟨slot, x, rfl, -, rfl, -⟩ | ⟨rfl, x, hx, rfl⟩ |
    ⟨rfl, x, p, hx, hp, rfl⟩
  · exact .kept (fun hd => name_ne (by simp) hd.1) (name_ne (by simp)) rfl
  · by_cases hvalue : value = some (.bool true)
    · subst hvalue
      cases hx
      exact .matched rfl rfl
    · refine .dropped ⟨rfl, hvalue⟩ ?_
      rcases x with _ | _ | _
      · simp [PhoneCheck.withVendor, PhoneCheck.vendor]
      · simp [PhoneCheck.withVendor, PhoneCheck.vendor]
      · exact absurd (Attributes.read_eq_bool_iff.1 hx) hvalue
  · rcases x with _ | _ | _
    · refine .unconfirmed (fun hd => name_ne (by simp) hd.1) ?_
      exact (Option.some.inj hp).symm
    · cases hp
    · obtain ⟨hvendor, rfl⟩ := PhoneCheck.withUser_true.1 hp
      rw [Attributes.read_eq_bool_iff.1 hx]
      exact .confirmed rfl hvendor rfl

/-- **What an act makes of the check of the phone**, in a session without a profile. -/
theorem turn_of_perform (h : perform config s a = some s') (under : s.Under config)
    (hid : s.profileId = none) : Turn a s.attributes.phone s'.attributes.phone := by
  rcases perform_cases h under with ⟨name, value, rfl, hs⟩ | ⟨r, rfl, rfl⟩ | ⟨hd, hu, haside⟩
  · rcases set_ok hs with ⟨hname, rfl⟩ | ⟨b, as, rfl, has, rfl⟩
    · have other (b : Attribute) : name ≠ b.name :=
        fun e => hname (e ▸ List.mem_map_of_mem (Attribute.mem_all b))
      exact .kept (fun hd => other _ hd.1) (other _) rfl
    · exact turn_of_set has
  · rw [reset_of_none hid]
    cases r with
    | afterSsn => exact .dropped trivial (fun e => by cases e)
    | resolution => exact .kept not_false not_false rfl
    | afterResolution => exact .dropped trivial (fun e => by cases e)
    | phone => exact .dropped trivial (fun e => by cases e)
    | applicant => exact .kept not_false not_false rfl
  · exact .kept hd hu haside.phone

/-! ## Acts in a row -/

/-- A session and the acts that led to it. -/
structure Run where
  session : Session
  /-- The acts that were not refused, in order. -/
  taken : List Act

/-- The next act, unless it is refused. -/
def Run.next (config : Config) (r : Run) (a : Act) : Run :=
  match perform config r.session a with
  | some s => ⟨s, r.taken ++ [a]⟩
  | none => r

/-- The run that acts lead to from a session in which nothing has happened. -/
def run (id : SessionId) (config : Config) (acts : List Act) : Run :=
  acts.foldl (Run.next config) ⟨new id config, []⟩

/-- What holds at the start and is kept by every act that is taken holds after every run. -/
theorem run_induct {P : Run → Prop} (id : SessionId) (start : P ⟨new id config, []⟩)
    (step : ∀ r a s, P r → perform config r.session a = some s → P ⟨s, r.taken ++ [a]⟩)
    (acts : List Act) : P (run id config acts) := by
  induction acts using List.reverseRecOn with
  | nil => exact start
  | append_singleton acts a ih =>
    rw [run, List.foldl_append, List.foldl_cons, List.foldl_nil]
    change P (Run.next config (run id config acts) a)
    unfold Run.next
    split
    · exact step _ _ _ ih ‹_›
    · exact ih

end Session

end Proofing
