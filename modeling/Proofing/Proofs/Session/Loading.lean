import Proofing.Proofs.Session.Storage
/-
  Proofing — a session is loaded key by key.

  What is loaded from a web session is put together from single values, each of
  which has a key of its own; beside them the web session may hold anything.

  * `load_eq`: where there is no object to load from, there might as well be an
    empty one;
  * `load_of_sameOwn`: web sessions that agree on the keys of a session
    (`SameOwn`) are loaded as the same one;
  * `load_pointwise`: every attribute is what its own value makes of it, but for
    the user's confirmation of the phone, which needs the vendor's as well; so a
    value that is spoilt spoils nothing else.
-/
namespace Proofing

namespace WebSession

/-- The members of the object under a key; none where there is no object. -/
def values (w : WebSession) (key : String) : Members Json :=
  (w.space? key).getD []

/-- What is stored under a key of the object under another key. -/
def stored? (w : WebSession) (space key : String) : Option Json :=
  Members.find? key (w.values space)

theorem values_replace_self (w : WebSession) (key : String) (values : Members Json) :
    (w.replace key values).values key = values := by
  rw [WebSession.values, space?_replace_self, Option.getD_some]

theorem values_replace_of_ne (w : WebSession) {key other : String} (h : other ≠ key)
    (values : Members Json) : (w.replace key values).values other = w.values other := by
  rw [WebSession.values, space?_replace_of_ne h, WebSession.values]

end WebSession

namespace Session
variable {config : Config} {web web' : WebSession}

/-- The web sessions agree on the keys of a session and on the data of a visit; beside them they may
    hold anything. -/
structure SameOwn (config : Config) (web web' : WebSession) : Prop where
  id : web.id = web'.id
  session : ∀ key ∈ keys, Members.find? key (web.values config.sessionSpace) =
    Members.find? key (web'.values config.sessionSpace)
  visit : Members.find? Key.visitPii (web.values config.visitSpace) =
    Members.find? Key.visitPii (web'.values config.visitSpace)

/-- Where there is no object, there might as well be an empty one. -/
theorem load_eq (web : WebSession) (config : Config) :
    load web config = { new web.id config with
      attributes := .ofStored (web.values config.sessionSpace)
      staged := read? (web.values config.sessionSpace) Key.staged
      sentCode := read? (web.values config.sessionSpace) Key.sentCode
      rejected := (read? (web.values config.sessionSpace) Key.rejected).getD .empty
      visitPii := read? (web.values config.visitSpace) Key.visitPii
      nonce := read? (web.values config.sessionSpace) Key.nonce } := by
  have hvisit : (web.space? config.visitSpace).bind (read? · Key.visitPii) =
      (read? (web.values config.visitSpace) Key.visitPii : Option Pii) := by
    unfold WebSession.values
    cases web.space? config.visitSpace <;> rfl
  rw [load, hvisit]
  unfold WebSession.values
  cases web.space? config.sessionSpace <;> rfl

/-- A session is loaded from its own keys alone. -/
theorem load_of_sameOwn (h : SameOwn config web web') : load web config = load web' config := by
  have own (a : Attribute) : Members.find? a.name (web.values config.sessionSpace) =
      Members.find? a.name (web'.values config.sessionSpace) :=
    h.session _ (List.mem_append_left _ (List.mem_map_of_mem (Attribute.mem_all a)))
  have attributes : Attributes.ofStored (web.values config.sessionSpace) =
      Attributes.ofStored (web'.values config.sessionSpace) := by
    simp only [Attributes.ofStored_eq, Attributes.given, own]
  rw [load_eq, load_eq, attributes, h.id]
  simp only [read?, h.session Key.staged (by decide), h.session Key.sentCode (by decide),
    h.session Key.rejected (by decide), h.session Key.nonce (by decide), h.visit]

theorem get_load {a : Attribute} (h : a ≠ .userPhone) (web : WebSession) (config : Config) :
    (load web config).attributes.get a = Attributes.alone a (web.stored? config.sessionSpace a.name) := by
  rw [load_eq]
  exact Attributes.get_ofStored h _

/-- Both sides of the check of the phone are stored as confirmed. -/
def BothConfirmed (web : WebSession) (config : Config) : Prop :=
  web.stored? config.sessionSpace Attribute.vendorPhone.name = some (.bool true) ∧
    web.stored? config.sessionSpace Attribute.userPhone.name = some (.bool true)

theorem get_load_userPhone (web : WebSession) (config : Config) :
    (BothConfirmed web config →
      (load web config).attributes.get .userPhone = some (.bool true)) ∧
    (¬ BothConfirmed web config → (load web config).attributes.get .userPhone = none) := by
  rw [load_eq]
  exact Attributes.get_ofStored_userPhone _

/-- What is loaded is told value by value, each under a key of its own. -/
structure Pointwise (web : WebSession) (config : Config) : Prop where
  /-- An attribute shows what it would show of the value under its name if there were no other. -/
  shown : ∀ a, a ≠ .userPhone →
    (load web config).attributes.get a = Attributes.alone a (web.stored? config.sessionSpace a.name)
  /-- It is unset where that value is absent, `null` or refused. -/
  unset : ∀ a, a ≠ .userPhone → ((load web config).attributes.get a = none ↔
    web.stored? config.sessionSpace a.name = none ∨
      web.stored? config.sessionSpace a.name = some .null ∨
      ∃ e, Attributes.empty.set a (web.stored? config.sessionSpace a.name) = .error e)
  /-- The user's confirmation is there with the vendor's, and else it is unset. -/
  confirmed : (BothConfirmed web config →
      (load web config).attributes.get .userPhone = some (.bool true)) ∧
    (¬ BothConfirmed web config → (load web config).attributes.get .userPhone = none)
  /-- All else is told by the value under its own key. -/
  staged : ∀ web', web'.stored? config.sessionSpace Key.staged =
    web.stored? config.sessionSpace Key.staged → (load web' config).staged = (load web config).staged
  sentCode : ∀ web', web'.stored? config.sessionSpace Key.sentCode =
    web.stored? config.sessionSpace Key.sentCode →
      (load web' config).sentCode = (load web config).sentCode
  rejected : ∀ web', web'.stored? config.sessionSpace Key.rejected =
    web.stored? config.sessionSpace Key.rejected →
      (load web' config).rejected = (load web config).rejected
  nonce : ∀ web', web'.stored? config.sessionSpace Key.nonce =
    web.stored? config.sessionSpace Key.nonce → (load web' config).nonce = (load web config).nonce
  visitPii : ∀ web', web'.stored? config.visitSpace Key.visitPii =
    web.stored? config.visitSpace Key.visitPii →
      (load web' config).visitPii = (load web config).visitPii
  /-- What is under other keys might as well not be there. -/
  foreign : ∀ web', SameOwn config web web' → load web' config = load web config
  /-- A value that is spoilt spoils its own attribute alone, and the vendor's the user's as well. -/
  spoilt : ∀ key web', (∀ other, other ≠ key →
      web'.stored? config.sessionSpace other = web.stored? config.sessionSpace other) →
    ∀ a : Attribute, a.name ≠ key → (a = .userPhone → Attribute.vendorPhone.name ≠ key) →
      (load web' config).attributes.get a = (load web config).attributes.get a

/-- **A session is loaded key by key**, whatever is in the web session. -/
theorem load_pointwise (web : WebSession) (config : Config) : Pointwise web config := by
  constructor
  case shown => exact fun a ha => get_load ha web config
  case unset =>
    intro a ha
    rw [get_load ha, Attributes.alone_eq_none_iff]
  case confirmed => exact get_load_userPhone web config
  case foreign => exact fun web' h => (load_of_sameOwn h).symm
  case spoilt =>
    intro key web' same a ha hvendor
    by_cases hu : a = .userPhone
    · subst hu
      obtain ⟨hyes, hno⟩ := get_load_userPhone web config
      obtain ⟨hyes', hno'⟩ := get_load_userPhone web' config
      rw [BothConfirmed, same _ (hvendor rfl), same _ ha] at hyes' hno'
      by_cases both : BothConfirmed web config
      · rw [hyes both, hyes' both]
      · rw [hno both, hno' both]
    · rw [get_load hu, get_load hu, same a.name ha]
  all_goals
    intro web' same
    unfold WebSession.stored? at same
    rw [load_eq, load_eq]
    simp only [read?, same]

end Session

end Proofing
