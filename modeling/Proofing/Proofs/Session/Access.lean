import Proofing.Proofs.Session.Loading
/-
  Proofing — access by name stays among the attributes.

  Between loading and storing a session any number of attributes may be read and
  written by name, whatever the names and values (`Access`).

  * `access_session`, `accesses_session`: a call, and so a list of calls, changes
    nothing but the attributes, and these by the calls on attributes alone;
  * `access_contained`: so nothing foreign gets from the web session into the
    session, from a call into either, or back; and what is written back is the
    same session, so writing it once more changes nothing.
-/
namespace Proofing

/-- A call by name. -/
inductive Access where
  | get (name : String)
  | set (name : String) (value : Option Json)

namespace Access

/-- The name that is asked for. -/
def name : Access → String
  | get name | set name _ => name

/-- The name is that of an attribute. -/
def isKnown (c : Access) : Bool :=
  (Attribute.ofName? c.name).isSome

/-- The attributes after a call; a refused value changes nothing. -/
def apply (as : Attributes) : Access → Attributes
  | get _ => as
  | set name value =>
    match Attribute.ofName? name with
    | none => as
    | some a => (as.set a value).toOption.getD as

theorem ofName?_of_unknown {c : Access} (h : c.isKnown = false) :
    Attribute.ofName? c.name = none := by
  simpa [isKnown] using h

theorem apply_of_unknown {c : Access} (h : c.isKnown = false) (as : Attributes) :
    c.apply as = as := by
  cases c with
  | get name => rfl
  | set name value =>
    have unknown : Attribute.ofName? name = none := ofName?_of_unknown h
    simp only [apply, unknown]

end Access

/-- What a call by a name that is no attribute is told. -/
def UnknownNames.answer (u : UnknownNames) (name : String) : Except FlowError (Option Json) :=
  match u with
  | .reject => .error (.unknownAttribute name)
  | .ignore => .ok none

namespace Session
variable {s : Session} {config : Config} {web : WebSession}

/-- The answer to a call and the session after it; a refused call leaves the session as it was. -/
def access (s : Session) : Access → Except FlowError (Option Json) × Session
  | .get name => (s.get name, s)
  | .set name value =>
    match s.set name value with
    | .ok s' => (.ok none, s')
    | .error e => (.error e, s)

/-- The answers to calls, one after another, and the session after the last one. -/
def accesses (s : Session) : List Access → List (Except FlowError (Option Json)) × Session
  | [] => ([], s)
  | c :: cs =>
    let (answer, s') := s.access c
    let (answers, s'') := s'.accesses cs
    (answer :: answers, s'')

/-! ## One call -/

theorem get_of_unknown {name : String} (h : Attribute.ofName? name = none) :
    s.get name = s.unknownNames.answer name := by
  simp only [get, resolve, h]
  cases s.unknownNames <;> rfl

theorem set_of_known {name : String} {a : Attribute} (h : Attribute.ofName? name = some a)
    (value : Option Json) :
    s.set name value = (s.attributes.set a value).map fun as => { s with attributes := as } := by
  simp only [set, resolve, h]
  change (s.attributes.set a value >>= fun as => pure { s with attributes := as }) = _
  cases s.attributes.set a value <;> rfl

theorem set_of_unknown {name : String} (h : Attribute.ofName? name = none) (value : Option Json) :
    s.set name value = (s.unknownNames.answer name).map fun _ => s := by
  simp only [set, resolve, h]
  cases s.unknownNames <;> rfl

/-- A call changes nothing but the attributes. -/
theorem access_session (s : Session) (c : Access) :
    (s.access c).2 = { s with attributes := c.apply s.attributes } := by
  cases c with
  | get name => rfl
  | set name value =>
    cases h : Attribute.ofName? name with
    | none =>
      simp only [access, set_of_unknown h, Access.apply, h]
      cases s.unknownNames.answer name <;> rfl
    | some a =>
      simp only [access, set_of_known h, Access.apply, h]
      cases s.attributes.set a value <;> rfl

/-- A name that is no attribute is answered by the settings alone. -/
theorem access_answer {c : Access} (h : c.isKnown = false) :
    (s.access c).1 = s.unknownNames.answer c.name := by
  cases c with
  | get name => exact get_of_unknown (Access.ofName?_of_unknown h)
  | set name value =>
    have unknown : Attribute.ofName? name = none := Access.ofName?_of_unknown h
    simp only [access, set_of_unknown unknown, Access.name]
    cases s.unknownNames <;> rfl

/-! ## Calls in a row -/

theorem accesses_session (s : Session) (calls : List Access) :
    (s.accesses calls).2 =
      { s with attributes := calls.foldl (fun as c => c.apply as) s.attributes } := by
  induction calls generalizing s with
  | nil => rfl
  | cons c calls ih =>
    change ((s.access c).2.accesses calls).2 = _
    rw [ih, access_session]
    rfl

theorem accesses_answers (s : Session) (calls : List Access) :
    List.Forall₂ (fun c answer => c.isKnown = false → answer = s.unknownNames.answer c.name)
      calls (s.accesses calls).1 := by
  induction calls generalizing s with
  | nil => exact .nil
  | cons c calls ih =>
    change List.Forall₂ _ (c :: calls) ((s.access c).1 :: ((s.access c).2.accesses calls).1)
    refine .cons access_answer ?_
    rw [access_session]
    exact ih { s with attributes := c.apply s.attributes }

theorem foldl_apply_filter (as : Attributes) (calls : List Access) :
    (calls.filter (·.isKnown)).foldl (fun as c => c.apply as) as =
      calls.foldl (fun as c => c.apply as) as := by
  induction calls generalizing as with
  | nil => rfl
  | cons c calls ih =>
    cases h : c.isKnown with
    | true => rw [List.filter_cons_of_pos h, List.foldl_cons, List.foldl_cons, ih]
    | false =>
      rw [List.filter_cons_of_neg (by simp [h]), List.foldl_cons, Access.apply_of_unknown h, ih]

/-! ## From loading to storing -/

/-- The policy on unknown names is all that the sessions under two policies differ in. -/
theorem load_policy (web : WebSession) (config : Config) (policy : UnknownNames) :
    load web { config with unknownNames := policy } =
      { load web config with unknownNames := policy } := by
  unfold load
  cases web.space? config.sessionSpace <;> rfl

/-- What calls by name lead to, from loading a session to storing it. -/
structure Contained (web : WebSession) (config : Config) (calls : List Access) : Prop where
  /-- Only attributes and the four other keys of a session are written back. -/
  written : ∃ values,
    (((load web config).accesses calls).2.store web).space? config.sessionSpace = some values ∧
      ∀ m ∈ values, m.1 ∈ keys
  /-- Everything else in the web session is what it was, the data of a visit included. -/
  others : ∀ key, key ≠ config.sessionSpace →
    Members.find? key (((load web config).accesses calls).2.store web).data =
      Members.find? key web.data
  /-- A name that is no attribute is told so, or nothing. -/
  foreignAnswers : List.Forall₂
    (fun c answer => c.isKnown = false → answer = config.unknownNames.answer c.name)
    calls ((load web config).accesses calls).1
  /-- A call by such a name might as well not be made. -/
  foreignCalls : ((load web config).accesses (calls.filter (·.isKnown))).2 =
    ((load web config).accesses calls).2
  /-- Other keys in the web session might as well not be there. -/
  foreignKeys : ∀ values, web.space? config.sessionSpace = some values →
    load (web.replace config.sessionSpace (values.filter fun m => m.1 ∈ keys)) config =
      load web config
  /-- The policy on unknown names changes nothing but itself. -/
  policies : ∀ policy,
    ((load web { config with unknownNames := policy }).accesses calls).2 =
      { ((load web config).accesses calls).2 with unknownNames := policy }
  /-- The session is loaded again as it was stored. -/
  loaded : load (((load web config).accesses calls).2.store web) config =
    ((load web config).accesses calls).2
  /-- Loading and storing it once more changes nothing. -/
  settled :
    (load (((load web config).accesses calls).2.store web) config).store
        (((load web config).accesses calls).2.store web) =
      ((load web config).accesses calls).2.store web

/-- **Access by name stays among the attributes**, whatever is in the web session and whatever the
    calls are. -/
theorem access_contained (web : WebSession) (config : Config) (calls : List Access)
    (distinct : config.sessionSpace ≠ config.visitSpace) : Contained web config calls := by
  have hunder : ((load web config).accesses calls).2.Under config := by
    rw [accesses_session]
    obtain ⟨h₁, h₂, h₃⟩ := under_load web config
    exact ⟨h₁, h₂, h₃⟩
  have hvisit : ((load web config).accesses calls).2.visitPii = (load web config).visitPii := by
    rw [accesses_session]
  have hid : web.id = ((load web config).accesses calls).2.id := by
    rw [accesses_session]
    exact (id_load web config).symm
  have hloaded : load (((load web config).accesses calls).2.store web) config =
      ((load web config).accesses calls).2 := by
    rw [load_store_eq hunder, visitPii_store distinct hunder, ← hvisit, hid]
  refine ⟨?_, ?_, ?_, ?_, ?_, ?_, hloaded, ?_⟩
  · refine ⟨((load web config).accesses calls).2.stored, ?_, fun m => key_mem_of_mem_stored⟩
    rw [store, hunder.space, WebSession.space?_replace_self]
  · intro key hkey
    exact find?_store (hunder.space ▸ hkey) web
  · rw [← (under_load web config).unknownNames]
    exact accesses_answers _ calls
  · rw [accesses_session, accesses_session, foldl_apply_filter]
  · intro values hvalues
    have hweb : web.values config.sessionSpace = values := by
      rw [WebSession.values, hvalues, Option.getD_some]
    refine load_of_sameOwn ⟨rfl, fun key hkey => ?_, ?_⟩
    · rw [WebSession.values_replace_self, hweb]
      exact Members.find?_filter (p := (· ∈ keys)) (by simpa using hkey)
    · rw [WebSession.values_replace_of_ne _ distinct.symm]
  · intro policy
    rw [load_policy, accesses_session, accesses_session]
  · rw [hloaded]
    exact WebSession.replace_replace _ _

theorem access_contained_foreign :
    Config.default.sessionSpace ≠ Config.default.visitSpace ∧
      Contained
        ⟨⟨"s"⟩, [("idv", .obj [("foo", .str "bar"), ("ssn", .bool true), ("flow_nonce", .arr [])]),
          ("idv/in_person", .null)]⟩
        .default
        [.set "foo" (some (.bool true)), .get "foo", .set "ssn" (some (.str "900-12-3456")),
          .set "user_phone_confirmation" (some (.bool true)), .get "ssn"] :=
  ⟨by decide, access_contained _ _ _ (by decide)⟩

end Session

end Proofing
