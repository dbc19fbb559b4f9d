import Proofing.Proofs.Session.Loading
import Proofing.Session.Progress
/-
  Proofing — when the capture of documents is complete.

  What is stored of a document or of a visit may be read as personal data although
  there is none in it: an empty object, a list of `null`, an object with other
  members only.

  * `Pii.Furnished`, `Pii.Hollow`: what is stored is personal data with some part,
    or without any;
  * `captureComplete_load_iff`: the capture is complete with data of the document,
    with data of a visit, or with the resolution.  It is also complete with data of
    a visit that is hollow, where hollow data of a document is not enough.
-/
namespace Proofing

namespace Pii

/-- The value is read as personal data. -/
def Form (j : Json) : Prop :=
  ∃ ms, membersOf? j = some ms ∧ ∀ m ∈ ms, m.1 ∈ names → IsPart m.2

/-- One of the parts is a text. -/
def HasText (j : Json) : Prop :=
  ∃ ms, membersOf? j = some ms ∧ ∃ name ∈ names, ∃ text, Members.find? name ms = some (.str text)

/-- What is stored is personal data with some part. -/
def Furnished (value : Option Json) : Prop :=
  ∃ j, value = some j ∧ Form j ∧ HasText j

/-- What is stored is personal data without any part. -/
def Hollow (value : Option Json) : Prop :=
  ∃ j, value = some j ∧ Form j ∧ ¬ HasText j

/-- The personal data in what is stored. -/
def ofStored? (value : Option Json) : Option Pii :=
  value.bind fun j => (Coded.decode j).toOption

theorem ofStored?_eq_some_iff {value : Option Json} {p : Pii} :
    ofStored? value = some p ↔ ∃ j ms, value = some j ∧ membersOf? j = some ms ∧
      (∀ m ∈ ms, m.1 ∈ names → IsPart m.2) ∧ p = ofMembers ms := by
  have hdecode (j : Json) : (Coded.decode j : Except DecodeError Pii).toOption = some p ↔
      (Coded.decode j : Except DecodeError Pii) = .ok p := by
    cases (Coded.decode j : Except DecodeError Pii) <;> simp [Except.toOption]
  simp only [ofStored?, Option.bind_eq_some_iff, hdecode, decode_eq_ok_iff, exists_and_left]

theorem furnished_iff {value : Option Json} :
    Furnished value ↔ ∃ p, ofStored? value = some p ∧ p.isEmpty = false := by
  constructor
  · rintro ⟨j, hj, ⟨ms, hms, parts⟩, ms', hms', text⟩
    cases hms.symm.trans hms'
    exact ⟨ofMembers ms, ofStored?_eq_some_iff.2 ⟨j, ms, hj, hms, parts, rfl⟩,
      isEmpty_ofMembers.2 text⟩
  · rintro ⟨p, hp, some⟩
    obtain ⟨j, ms, hj, hms, parts, rfl⟩ := ofStored?_eq_some_iff.1 hp
    exact ⟨j, hj, ⟨ms, hms, parts⟩, ms, hms, isEmpty_ofMembers.1 some⟩

/-- What is read as personal data has some part, or none. -/
theorem isSome_ofStored?_iff {value : Option Json} :
    (ofStored? value).isSome ↔ Furnished value ∨ Hollow value := by
  rw [Option.isSome_iff_exists]
  constructor
  · rintro ⟨p, hp⟩
    obtain ⟨j, ms, hj, hms, parts, -⟩ := ofStored?_eq_some_iff.1 hp
    by_cases text : HasText j
    · exact .inl ⟨j, hj, ⟨ms, hms, parts⟩, text⟩
    · exact .inr ⟨j, hj, ⟨ms, hms, parts⟩, text⟩
  · rintro (⟨j, hj, ⟨ms, hms, parts⟩, -⟩ | ⟨j, hj, ⟨ms, hms, parts⟩, -⟩) <;>
      exact ⟨ofMembers ms, ofStored?_eq_some_iff.2 ⟨j, ms, hj, hms, parts, rfl⟩⟩

end Pii

namespace Session
variable {s : Session} {web : WebSession} {config : Config}

theorem captureComplete_iff : s.captureComplete = true ↔
    (∃ p : Pii, s.held .documentPii = some p ∧ p.isEmpty = false) ∨ s.visitPii.isSome ∨
      s.held .resolutionSuccessful = some true := by
  simp [captureComplete, isResolved, Option.any_eq_true, or_assoc]

theorem visitPii_load_eq (web : WebSession) (config : Config) :
    (load web config).visitPii = Pii.ofStored? (web.stored? config.visitSpace Key.visitPii) := by
  rw [load_eq]
  rfl

theorem documentPii_load (web : WebSession) (config : Config) :
    (load web config).held .documentPii =
      Pii.ofStored? (web.stored? config.sessionSpace (Attribute.slot .documentPii).name) := by
  rw [load_eq, held, Attributes.ofStored_eq]
  change (Members.find? _ _).bind _ = (Members.find? _ _).bind _
  congr 1
  funext j
  -- `null`, which clears an attribute, is no personal data either
  cases j with
  | null => rfl
  | _ =>
    simp only [Attributes.read]
    split <;> rename_i h <;> rw [h] <;> rfl

theorem resolution_load : (load web config).held .resolutionSuccessful = some true ↔
    web.stored? config.sessionSpace (Attribute.slot .resolutionSuccessful).name =
      some (.bool true) := by
  rw [load_eq, held, Attributes.ofStored_eq]
  exact Attributes.given_eq_true_iff

/-- **The capture of documents is complete** once there is data of the document, data of a visit, or
    the resolution; but hollow data of a visit is enough, too, although it says no more of the person
    than no data would. -/
theorem captureComplete_load_iff (web : WebSession) (config : Config) :
    (load web config).captureComplete = true ↔
      Pii.Furnished (web.stored? config.sessionSpace (Attribute.slot .documentPii).name) ∨
      Pii.Furnished (web.stored? config.visitSpace Key.visitPii) ∨
      web.stored? config.sessionSpace (Attribute.slot .resolutionSuccessful).name =
        some (.bool true) ∨
      Pii.Hollow (web.stored? config.visitSpace Key.visitPii) := by
  rw [captureComplete_iff, resolution_load, documentPii_load, ← Pii.furnished_iff,
    visitPii_load_eq, Pii.isSome_ofStored?_iff]
  tauto

/-- An empty object completes the capture where it stands for a visit, and not where it stands for a
    document. -/
example :
    (load ⟨⟨"s"⟩, [("idv/in_person", .obj [("pii_from_user", .obj [])])]⟩
      .default).captureComplete = true ∧
    (load ⟨⟨"s"⟩, [("idv", .obj [("pii_from_doc", .obj [])])]⟩
      .default).captureComplete = false := by
  decide +kernel

end Session

end Proofing
