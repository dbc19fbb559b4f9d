import Proofing.Inspector.Disk
import Proofing.Proofs.Session.Access
/-
  Proofing — the summary of a session is discreet.

  Two sessions are `Alike` where they agree on all that holds no personal data, and
  on what of the rest is there, whatever it is.

  * `Alike.held`, `Alike.phone`: what holds no personal data is the same in both;
  * `Alike.phase`, `Alike.captureComplete`, `Alike.shownAttributes`: each part of
    the summary is made of that, and of what is there;
  * `summary_discreet`: so the summaries of sessions that are alike are one, and so
    is what is shown of them where they are stored.
-/
namespace Proofing

namespace Session

/-- The sessions agree on all that holds no personal data, and on what of the rest is there. -/
structure Alike (s s' : Session) : Prop where
  id : s.id = s'.id
  values : ∀ a : Attribute, a.isSensitive = false → s.attributes.get a = s'.attributes.get a
  present : ∀ a : Attribute, a.isSensitive = true →
    (s.attributes.get a).isSome = (s'.attributes.get a).isSome
  /-- The document has given some data in both, or in neither. -/
  document : (s.held .documentPii).any (fun p => !p.isEmpty) =
    (s'.held .documentPii).any (fun p => !p.isEmpty)
  visit : s.visitPii.isSome = s'.visitPii.isSome
  staged : s.hasStaged = s'.hasStaged
  sentCode : s.sentCode.isSome = s'.sentCode.isSome
  rejected : s.rejected.numbers.length = s'.rejected.numbers.length

/-! ## What is alike -/

section
variable {s s' : Session} (h : s.Alike s')
include h

theorem Alike.held {slot : Slot} (plain : (Attribute.slot slot).isSensitive = false) :
    s.held slot = s'.held slot := by
  have hget : (s.held slot).map Coded.encode = (s'.held slot).map Coded.encode := h.values _ plain
  exact Option.map_injective (fun _ _ => Coded.encode_injective) hget

theorem Alike.isSome_held {slot : Slot} (sensitive : (Attribute.slot slot).isSensitive = true) :
    (s.held slot).isSome = (s'.held slot).isSome := by
  have hget : ((s.held slot).map Coded.encode).isSome = ((s'.held slot).map Coded.encode).isSome :=
    h.present _ sensitive
  rwa [Option.isSome_map, Option.isSome_map] at hget

/-- The check of the phone is that of its two sides. -/
theorem Alike.phone : s.attributes.phone = s'.attributes.phone := by
  have side {b b' : Option Bool} (hb : b.map Json.bool = b'.map Json.bool) : b = b' :=
    Option.map_injective (fun _ _ => Json.bool.inj) hb
  have vendor : s.attributes.phone.vendor = s'.attributes.phone.vendor :=
    side (h.values .vendorPhone rfl)
  have user : s.attributes.phone.user = s'.attributes.phone.user := side (h.values .userPhone rfl)
  rw [← s.attributes.phone.ofSides_sides, vendor, user, PhoneCheck.ofSides_sides]

theorem Alike.address : s.address = s'.address := by
  have hmechanism : s.held .mechanism = s'.held .mechanism := h.held rfl
  rw [Session.address, Session.address, hmechanism, h.phone]

theorem Alike.isResolved : s.isResolved = s'.isResolved := by
  have hresolution : s.held .resolutionSuccessful = s'.held .resolutionSuccessful := h.held rfl
  rw [Session.isResolved, Session.isResolved, hresolution]

theorem Alike.captureComplete : s.captureComplete = s'.captureComplete := by
  rw [Session.captureComplete, Session.captureComplete, h.document, h.visit, h.isResolved]

theorem Alike.addressConfirmed : s.addressConfirmed = s'.addressConfirmed := by
  have hletter : s.held .letterCodeVerified = s'.held .letterCodeVerified := h.held rfl
  rw [Session.addressConfirmed, Session.addressConfirmed, hletter]

/-- Of the personal key and of the applicant, the phase tells no more than that they are there. -/
theorem Alike.phase : s.phase none = s'.phase none := by
  have hheld : s.held .profileId = s'.held .profileId := h.held rfl
  have hkey : (s.held .personalKey).isSome = (s'.held .personalKey).isSome := h.isSome_held rfl
  have hmechanism : s.held .mechanism = s'.held .mechanism := h.held rfl
  have hresolution : s.held .resolutionSuccessful = s'.held .resolutionSuccessful := h.held rfl
  have happlicant : (s.held .applicant).isSome = (s'.held .applicant).isSome := h.isSome_held rfl
  have hid : s.profileId = s'.profileId := hheld
  simp only [Session.phase, phoneConfirmed, ← Option.not_isSome, hid, hkey, h.address, hmechanism,
    hresolution, happlicant]
  -- the conditions are decided alike
  rfl

/-- An attribute is shown with its value where that holds no personal data, and else with none. -/
theorem Alike.shownAttributes : Inspector.shownAttributes s = Inspector.shownAttributes s' := by
  unfold Inspector.shownAttributes Attributes.present
  rw [List.map_filterMap, List.map_filterMap]
  congr 1
  refine List.filterMap_congr fun a _ => ?_
  cases ha : a.isSensitive with
  | false => rw [h.values a ha]
  | true =>
    have hsome := h.present a ha
    cases hget : s.attributes.get a <;> cases hget' : s'.attributes.get a <;>
      simp_all

theorem Alike.summary : Inspector.summary s = Inspector.summary s' := by
  have hphone : s.phoneConfirmed = s'.phoneConfirmed := by
    rw [phoneConfirmed, phoneConfirmed, h.address]
  rw [Inspector.summary, Inspector.summary, h.id, h.phase, h.captureComplete, h.isResolved,
    h.address, hphone, codeSent, codeSent, h.sentCode, h.addressConfirmed, h.staged, h.rejected,
    h.shownAttributes]

end

end Session

namespace Inspector
open Session (load)

/-! ## What is shown -/

/-- The session at a path is shown by its summary. -/
theorem run_inspect {config : Config} {d : Disk} {path : String} {web : WebSession}
    (h : (readSession Disk.host path).run d = (.ok web, d)) :
    (execute Disk.host config (.inspect path)).run d =
      (.ok (Json.pretty (summary (load web config)) ++ "\n"), d) := by
  have hrun : (execute Disk.host config (.inspect path)).run d =
      (((readSession Disk.host path).run d).1.map fun web =>
        Json.pretty (summary (load web config)) ++ "\n", ((readSession Disk.host path).run d).2) :=
    rfl
  rw [hrun, h]
  rfl

/-- Nothing that is shown tells the sessions apart. -/
structure Indistinct (s s' : Session) : Prop where
  summary : summary s = summary s'
  /-- Nor does what is shown of them where they are stored, whatever else is stored there. -/
  shown : ∀ {config config' : Config} {web web' w w' : WebSession} {d d' : Disk}
    {path path' : String}, load web config = s → load web' config' = s' →
      Session.SameOwn config web w → Session.SameOwn config' web' w' →
      (readSession Disk.host path).run d = (.ok w, d) →
      (readSession Disk.host path').run d' = (.ok w', d') →
      ((execute Disk.host config (.inspect path)).run d).1 =
        ((execute Disk.host config' (.inspect path')).run d').1

/-- **The summary of a session is discreet**: it is the same for all sessions that are alike, whatever
    personal data they hold. -/
theorem summary_discreet {s s' : Session} (alike : s.Alike s') : Indistinct s s' where
  summary := alike.summary
  shown := by
    rintro config config' web web' w w' d d' path path' rfl rfl same same' hread hread'
    rw [run_inspect hread, run_inspect hread', ← Session.load_of_sameOwn same,
      ← Session.load_of_sameOwn same', alike.summary]

/-- A session with personal data in attributes, in what is staged, and in a rejected number. -/
def furnished (ssn : String) (number : PhoneNumber) : Session :=
  { Session.new ⟨"web"⟩ .default with
    attributes := ((({ Attributes.empty with phone := .vendorConfirmed }).put .ssn (some ssn)).put
      .mobilePhone (some number.text)).put .capturePath (some .hybrid)
    staged := some ⟨ssn⟩
    rejected := ⟨[number]⟩ }

theorem summary_discreet_furnished :
    let s := furnished "900-12-3456" ⟨"+12025550123", by decide⟩
    let s' := furnished "666-00-0001" ⟨"+442079460000", by decide⟩
    s.held .ssn ≠ s'.held .ssn ∧ s.rejected ≠ s'.rejected ∧ s.Alike s' ∧ Indistinct s s' := by
  intro s s'
  have alike : s.Alike s' := by
    constructor
    case values =>
      rintro (slot | _ | _) plain
      · cases slot <;> first | rfl | cases plain
      · rfl
      · rfl
    case present =>
      rintro (slot | _ | _) sensitive
      · cases slot <;> rfl
      · cases sensitive
      · cases sensitive
    case staged => decide
    all_goals rfl
  exact ⟨by decide, by decide, alike, summary_discreet alike⟩

end Inspector

end Proofing
