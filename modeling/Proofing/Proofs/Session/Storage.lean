import Proofing.Proofs.Session.Attributes
import Proofing.Session.Basic
/-
  Proofing — a session outlives its request.

  * `stored_eq`: what is stored of a session is one entry for each of `keys`,
    less the entries without a value;
  * `load_store_eq`: what is stored is loaded again, whatever was in the web
    session before;
  * `load_store`: nothing else in the web session changes, and so the data of a
    visit is what it was.
-/
namespace Proofing

namespace WebSession
variable {w : WebSession} {key : String}

theorem space?_replace_self (values : Members Json) :
    (w.replace key values).space? key = some values := by
  rw [space?, replace, Members.find?_put_self]; rfl

theorem space?_replace_of_ne {other : String} (h : other ≠ key) (values : Members Json) :
    (w.replace key values).space? other = w.space? other := by
  rw [space?, replace, Members.find?_put_of_ne h, space?]

/-- Only the last object that is put under a key is there. -/
theorem replace_replace (values values' : Members Json) :
    (w.replace key values).replace key values' = w.replace key values' := by
  simp only [replace, Members.put_put]

end WebSession

namespace Session

/-- The session was made under the settings. -/
structure Under (s : Session) (config : Config) : Prop where
  space : s.space = config.sessionSpace
  visitSpace : s.visitSpace = config.visitSpace
  unknownNames : s.unknownNames = config.unknownNames

variable {s : Session} {config : Config} {web : WebSession}

/-- Whatever else changes in a session, it stays under its settings. -/
theorem Under.update (h : s.Under config) (id : SessionId) (attributes : Attributes)
    (staged : Option StagedText) (sentCode : Option SentCode) (rejected : RejectedNumbers)
    (visitPii : Option Pii) (nonce : Option Uuid) :
    { s with id, attributes, staged, sentCode, rejected, visitPii, nonce }.Under config :=
  ⟨h.space, h.visitSpace, h.unknownNames⟩

theorem under_load (web : WebSession) (config : Config) : (load web config).Under config := by
  unfold load
  split <;> exact ⟨rfl, rfl, rfl⟩

theorem id_load (web : WebSession) (config : Config) : (load web config).id = web.id := by
  unfold load
  split <;> rfl

/-! ## What is stored -/

/-- The keys under which a session is stored. -/
def keys : List String :=
  Attribute.all.map Attribute.name ++ [Key.staged, Key.sentCode, Key.rejected, Key.nonce]

theorem nodup_keys : keys.Nodup := by decide

/-- The rejected numbers, if there are any. -/
def rejections (s : Session) : Option RejectedNumbers :=
  if s.rejected.numbers.isEmpty then none else some s.rejected

/-- What a session has under each of its keys. -/
def entries (s : Session) : List (String × Option Json) :=
  Attribute.all.map (fun a => (a.name, s.attributes.get a)) ++
    [(Key.staged, s.staged.map Coded.encode), (Key.sentCode, s.sentCode.map Coded.encode),
      (Key.rejected, s.rejections.map Coded.encode), (Key.nonce, s.nonce.map Coded.encode)]

theorem map_entries (s : Session) : s.entries.map (·.1) = keys := rfl

theorem there_entry {α : Type} [Coded α] (key : String) (value : Option α)
    (es : List (String × Option Json)) :
    Members.there ((key, value.map Coded.encode) :: es) = entry key value ++ Members.there es := by
  cases value <;> rfl

theorem there_present (as : Attributes) :
    Members.there (Attribute.all.map fun a => (a.name, as.get a)) =
      as.present.map fun (a, j) => (a.name, j) := by
  rw [Members.there, List.filterMap_map, Attributes.present, List.map_filterMap]
  congr 1
  funext a
  change (as.get a).map (a.name, ·) = ((as.get a).map (a, ·)).map fun x => (x.1.name, x.2)
  rw [Option.map_map]
  rfl

/-- A session is stored as its entries, less those without a value. -/
theorem stored_eq (s : Session) : s.stored = .ofList (Members.there s.entries) := by
  have append (es es' : List (String × Option Json)) :
      Members.there (es ++ es') = Members.there es ++ Members.there es' := List.filterMap_append
  rw [stored, entries, append, there_present, there_entry, there_entry, there_entry, there_entry]
  simp only [Members.there, List.filterMap_nil, List.append_nil, List.append_assoc, rejections]

theorem find?_stored {key : String} {value : Option Json} (h : (key, value) ∈ s.entries) :
    Members.find? key s.stored = value := by
  rw [stored_eq]
  exact Members.find?_ofList_there (s.map_entries ▸ nodup_keys) h

/-- A session is stored under its keys and no others. -/
theorem key_mem_of_mem_stored {m : String × Json} (h : m ∈ s.stored) : m.1 ∈ keys := by
  rw [stored_eq] at h
  rw [← s.map_entries]
  exact (Members.keys_there s.entries).subset (List.mem_map_of_mem (Members.mem_of_mem_ofList h))

/-! ## What is loaded -/

theorem read?_encode {α : Type} [Coded α] [Coded.Lawful α] {values : Members Json} {key : String}
    {v : Option α} (h : Members.find? key values = v.map Coded.encode) : read? values key = v := by
  rw [read?, h]
  cases v with
  | none => rfl
  | some v =>
    rw [Option.map_some, Option.bind_some, Coded.decode_encode]
    rfl

theorem visitPii_load (web : WebSession) (config : Config) : (load web config).visitPii =
    (web.space? config.visitSpace).bind fun values => read? values Key.visitPii := by
  unfold load
  split <;> rfl

theorem load_of_space {values : Members Json} (h : web.space? config.sessionSpace = some values) :
    load web config = { new web.id config with
      attributes := .ofStored values
      staged := read? values Key.staged
      sentCode := read? values Key.sentCode
      rejected := (read? values Key.rejected).getD .empty
      visitPii := (load web config).visitPii
      nonce := read? values Key.nonce } := by
  rw [visitPii_load]
  simp only [load, h]

/-- **What is stored is loaded again.** -/
theorem load_store_eq (h : s.Under config) (web : WebSession) :
    load (s.store web) config =
      { s with id := web.id, visitPii := (load (s.store web) config).visitPii } := by
  have hspace : (s.store web).space? config.sessionSpace = some s.stored := by
    rw [store, h.space, WebSession.space?_replace_self]
  have side {key : String} {value : Option Json} (hm : (key, value) ∈
      [(Key.staged, s.staged.map Coded.encode), (Key.sentCode, s.sentCode.map Coded.encode),
        (Key.rejected, s.rejections.map Coded.encode), (Key.nonce, s.nonce.map Coded.encode)]) :
      Members.find? key s.stored = value := find?_stored (List.mem_append_right _ hm)
  have attributes : Attributes.ofStored s.stored = s.attributes := by
    refine Attributes.ofStored_get fun a => find?_stored (List.mem_append_left _ ?_)
    exact List.mem_map_of_mem (Attribute.mem_all a)
  have staged : read? s.stored Key.staged = s.staged := read?_encode (side (by simp))
  have sentCode : read? s.stored Key.sentCode = s.sentCode := read?_encode (side (by simp))
  have nonce : read? s.stored Key.nonce = s.nonce := read?_encode (side (by simp))
  have rejected : (read? s.stored Key.rejected).getD .empty = s.rejected := by
    rw [read?_encode (v := s.rejections) (side (by simp)), rejections]
    obtain ⟨_ | ⟨n, ns⟩⟩ := s.rejected <;> rfl
  have id : (s.store web).id = web.id := rfl
  rw [load_of_space hspace, attributes, staged, sentCode, nonce, rejected, new, id, ← h.space,
    ← h.visitSpace, ← h.unknownNames]

/-- Storing a session leaves the data of a visit alone. -/
theorem visitPii_store (distinct : config.sessionSpace ≠ config.visitSpace) (h : s.Under config) :
    (load (s.store web) config).visitPii = (load web config).visitPii := by
  rw [visitPii_load, visitPii_load, store, h.space, WebSession.space?_replace_of_ne distinct.symm]

/-- Nothing but the space of the session changes. -/
theorem find?_store {key : String} (h : key ≠ s.space) (web : WebSession) :
    Members.find? key (s.store web).data = Members.find? key web.data :=
  Members.find?_put_of_ne h _ _

/-- **A session outlives its request**, and nothing else in the web session changes. -/
theorem load_store (distinct : config.sessionSpace ≠ config.visitSpace) (h : s.Under config)
    (same : web.id = s.id) :
    load (s.store web) config = { s with visitPii := (load web config).visitPii } ∧
      (s.store web).id = web.id ∧
      ∀ key, key ≠ config.sessionSpace →
        Members.find? key (s.store web).data = Members.find? key web.data := by
  refine ⟨?_, rfl, fun key hkey => find?_store (h.space ▸ hkey) web⟩
  rw [load_store_eq h, visitPii_store distinct h, same]

/-- A session with values that are easily lost: a blank token, personal data without any part, a
    phone that the vendor turned down, and an empty text on its way to the vault. -/
def frail : Session :=
  { new ⟨"s"⟩ .default with
    attributes :=
      (({ Attributes.empty with phone := .rejected }).put .pii (some (.reference ⟨" "⟩))).put
        .applicant (some .empty)
    staged := some ⟨""⟩
    sentCode := some ⟨⟨"+12025550123", by decide⟩, .voice, ⟨0⟩, 0⟩
    rejected := ⟨[⟨"+12025550123", by decide⟩, ⟨"+442079460000", by decide⟩]⟩
    nonce := some ⟨List.replicate 16 255, rfl⟩ }

theorem load_store_frail :
    let web : WebSession := ⟨⟨"s"⟩,
      [("idv", .str "none"), ("idv/in_person", .obj [("pii_from_user", .obj [])]), ("cart", .null)]⟩
    Config.default.sessionSpace ≠ Config.default.visitSpace ∧ frail.Under .default ∧
      web.id = frail.id ∧
      load (frail.store web) .default = { frail with visitPii := some .empty } ∧
      (frail.store web).id = web.id ∧
      ∀ key, key ≠ "idv" → Members.find? key (frail.store web).data = Members.find? key web.data :=
  have under : frail.Under .default := ⟨rfl, rfl, rfl⟩
  ⟨by decide, under, rfl, load_store (by decide) under rfl⟩

end Session

end Proofing
