import Proofing.Inspector.Command
import Proofing.Proofs.Session.Resets
/-
  Proofing — resets of a stored session.

  `applyReset` loads a session, resets a step and stores the session, so a row of
  resets (`applyResets`) brings whatever is stored into the form in which sessions
  are stored, again and again.  In memory, the same row is `Session.resets`.

  * `load_store_of`: a session that belongs to a web session is loaded as it was
    stored there;
  * `applyResets_store`: so one step after another comes to the row in memory;
  * `resets_refine`: loading once, resetting and storing once is all there is to
    it, and a locked session is left as it is.
-/
namespace Proofing

namespace Session
variable {s : Session} {config : Config} {web : WebSession}

/-- The session may be what was loaded from the web session and then worked on. -/
structure Of (config : Config) (web : WebSession) (s : Session) : Prop where
  under : s.Under config
  id : s.id = web.id
  visitPii : s.visitPii = (load web config).visitPii

theorem of_load (web : WebSession) (config : Config) : (load web config).Of config web :=
  ⟨under_load web config, id_load web config, rfl⟩

theorem Of.drop (h : s.Of config web) (r : Reset) : (s.drop r).Of config web := by
  obtain ⟨attributes, sentCode, e⟩ := s.drop_eq r
  rw [e]
  exact ⟨h.under.update .., h.id, h.visitPii⟩

theorem Of.resets (h : s.Of config web) (rs : List Reset) : (s.resets rs).2.Of config web := by
  induction rs generalizing s with
  | nil => exact h
  | cons r rs ih =>
    cases hid : s.profileId with
    | some id => rw [resets_of_profileId hid]; exact h
    | none => rw [resets_of_none hid]; exact ih (h.drop r)

/-- A session is loaded as it was stored. -/
theorem load_store_of (distinct : config.sessionSpace ≠ config.visitSpace) (h : s.Of config web) :
    load (s.store web) config = s := by
  rw [(load_store distinct h.under h.id.symm).1, ← h.visitPii]

/-- Of two sessions that are stored one after another, the second is there. -/
theorem Of.store_store {s' : Session} (h : s.Of config web) (h' : s'.Of config web) :
    s'.store (s.store web) = s'.store web := by
  have same : s'.space = s.space := h'.under.space.trans h.under.space.symm
  rw [store, store, store, same, WebSession.replace_replace]

end Session

namespace Inspector
open Session (load)

variable {config : Config} {web : WebSession} {s : Session}

/-- What stored resets in a row come to, and the web session after the last one; a reset that fails
    leaves it as it is. -/
def applyResets (config : Config) (web : WebSession) : List Reset → List ResetOutcome × WebSession
  | [] => ([], web)
  | r :: rs =>
    match applyReset web config r with
    | none => (.locked :: (applyResets config web rs).1, (applyResets config web rs).2)
    | some web => (.cleared :: (applyResets config web rs).1, (applyResets config web rs).2)

theorem applyReset_of_profileId {id : ProfileId} (h : (load web config).profileId = some id)
    (r : Reset) : applyReset web config r = none := by
  rw [applyReset, Session.reset_of_profileId h]

theorem applyReset_of_none (h : (load web config).profileId = none) (r : Reset) :
    applyReset web config r = some (((load web config).drop r).store web) := by
  rw [applyReset, Session.reset_of_none h]

theorem applyResets_of_profileId {id : ProfileId} (h : (load web config).profileId = some id)
    (rs : List Reset) : applyResets config web rs = (rs.map fun _ => .locked, web) := by
  induction rs with
  | nil => rfl
  | cons r rs ih => simp only [applyResets, applyReset_of_profileId h, ih, List.map_cons]

/-- From a stored session on, resets come to what they come to in memory. -/
theorem applyResets_store (distinct : config.sessionSpace ≠ config.visitSpace)
    (of : s.Of config web) (h : s.profileId = none) (rs : List Reset) :
    applyResets config (s.store web) rs = ((s.resets rs).1, (s.resets rs).2.store web) := by
  induction rs generalizing s with
  | nil => rfl
  | cons r rs ih =>
    have hload : load (s.store web) config = s := Session.load_store_of distinct of
    have hstep : applyReset (s.store web) config r = some ((s.drop r).store web) := by
      rw [applyReset_of_none (by rw [hload, h]), hload, of.store_store (of.drop r)]
    have hdrop : (s.drop r).profileId = none := (s.profileId_drop r).trans h
    rw [Session.resets_of_none h, applyResets, hstep]
    simp only [ih (of.drop r) hdrop]

theorem applyResets_of_none (distinct : config.sessionSpace ≠ config.visitSpace)
    (h : (load web config).profileId = none) (r : Reset) (rs : List Reset) :
    applyResets config web (r :: rs) =
      (((load web config).resets (r :: rs)).1, ((load web config).resets (r :: rs)).2.store web) := by
  have hdrop : ((load web config).drop r).profileId = none := (Session.profileId_drop _ r).trans h
  rw [Session.resets_of_none h, applyResets, applyReset_of_none h]
  simp only [applyResets_store distinct ((Session.of_load web config).drop r) hdrop]

theorem applyResets_append (web : WebSession) (rs rs' : List Reset) :
    applyResets config web (rs ++ rs') =
      ((applyResets config web rs).1 ++ (applyResets config (applyResets config web rs).2 rs').1,
        (applyResets config (applyResets config web rs).2 rs').2) := by
  induction rs generalizing web with
  | nil => rfl
  | cons r rs ih =>
    rw [List.cons_append, applyResets, applyResets]
    cases applyReset web config r <;> simp only [ih, List.cons_append]

theorem applyResets_twice (distinct : config.sessionSpace ≠ config.visitSpace) (web : WebSession)
    (r : Reset) : (applyResets config web [r, r]).2 = (applyResets config web [r]).2 := by
  cases h : (load web config).profileId with
  | some id => rw [applyResets_of_profileId h, applyResets_of_profileId h]
  | none =>
    have hdrop : ((load web config).drop r).profileId = none := (Session.profileId_drop _ r).trans h
    rw [applyResets_of_none distinct h, applyResets_of_none distinct h, Session.resets_of_none h,
      Session.resets_of_none h, Session.resets_of_none hdrop, Session.drop_drop]

/-- Stored resets in a row are resets in memory. -/
structure Refines (config : Config) (web : WebSession) (rs : List Reset) : Prop where
  /-- With a profile, all of them fail and change nothing. -/
  locked : (load web config).profileId ≠ none →
    applyResets config web rs = (rs.map fun _ => .locked, web)
  /-- Without one, all of them succeed, and the session might as well be stored once. -/
  cleared : (load web config).profileId = none →
    applyResets config web rs =
      (rs.map fun _ => .cleared, ((load web config).resets rs).2.store web)
  /-- The answers are those in memory. -/
  answers : (applyResets config web rs).1 = ((load web config).resets rs).1
  /-- In the end, the session in memory is loaded. -/
  loaded : load (applyResets config web rs).2 config = ((load web config).resets rs).2
  id : (applyResets config web rs).2.id = web.id
  /-- Nothing but the space of the session changes. -/
  others : ∀ key, key ≠ config.sessionSpace →
    Members.find? key (applyResets config web rs).2.data = Members.find? key web.data
  /-- A reset that is repeated at once might as well not be, whatever comes before it. -/
  twice : ∀ before r, (applyResets config web (before ++ [r, r])).2 =
    (applyResets config web (before ++ [r])).2

/-- **Stored resets in a row are resets in memory**, whatever is stored: the session is loaded once,
    reset, and stored once, or it is locked and nothing changes. -/
theorem resets_refine (web : WebSession) {config : Config}
    (distinct : config.sessionSpace ≠ config.visitSpace) {rs : List Reset} (some : rs ≠ []) :
    Refines config web rs := by
  obtain ⟨r, rs, rfl⟩ := List.exists_cons_of_ne_nil some
  have htwice (before : List Reset) (r' : Reset) :
      (applyResets config web (before ++ [r', r'])).2 =
        (applyResets config web (before ++ [r'])).2 := by
    rw [applyResets_append, applyResets_append]
    exact applyResets_twice distinct _ r'
  cases h : (load web config).profileId with
  | some id =>
    have happly := applyResets_of_profileId h (r :: rs)
    have hmemory := Session.resets_of_profileId h (r :: rs)
    constructor
    case locked => exact fun _ => happly
    case cleared => exact fun e => by cases h.symm.trans e
    case answers => rw [happly, hmemory]
    case loaded => rw [happly, hmemory]
    case id => rw [happly]
    case others => intro key _; rw [happly]
    case twice => exact htwice
  | none =>
    have happly := applyResets_of_none distinct h r rs
    have of := (Session.of_load web config).resets (r :: rs)
    constructor
    case locked => exact fun e => absurd h e
    case cleared =>
      intro _
      rw [happly, Session.answers_of_none h]
    case answers => rw [happly]
    case loaded => rw [happly, Session.load_store_of distinct of]
    case id => rw [happly]; rfl
    case others =>
      intro key hkey
      rw [happly]
      exact Session.find?_store (of.under.space ▸ hkey) web
    case twice => exact htwice

/-- Here the session is stored with a foreign key, with an applicant in another form, and with values
    that are dropped when it is loaded. -/
theorem resets_refine_messy :
    let web : WebSession := ⟨⟨"web"⟩, [("cart", .null), ("idv", .obj [
      ("applicant", .arr [.str "FAKEY"]), ("foo", .bool true), ("resolution_successful", .str "yes"),
      ("ssn", .str "900-12-3456"), ("user_phone_confirmation", .bool true)])]⟩
    Config.default.sessionSpace ≠ Config.default.visitSpace ∧
      [Reset.afterSsn, .resolution, .afterSsn] ≠ [] ∧
      (load web .default).profileId = none ∧ (load web .default).held .ssn = some "900-12-3456" ∧
      Refines .default web [.afterSsn, .resolution, .afterSsn] :=
  ⟨by decide, by decide, by decide +kernel, by decide +kernel,
    resets_refine _ (by decide) (by decide)⟩

end Inspector

end Proofing
