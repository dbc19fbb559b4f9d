import Proofing.Proofs.Session.Acts
/-
  Proofing — a flow is started anew.

  Of a session that is cleared nothing is left but the nonce of the new run, in
  the session and in the web session alike; everything else in the web session
  stays (`anew_clear`).  From then on the session belongs to the new run, whatever
  is done with it (`flow_run`).
-/
namespace Proofing

namespace WebSession
variable {w : WebSession} {key : String}

theorem find?_remove (other : String) : Members.find? other (w.remove key).data =
    if other = key then none else Members.find? other w.data :=
  Members.find?_erase ..

theorem find?_replace (other : String) (values : Members Json) :
    Members.find? other (w.replace key values).data =
      if other = key then some (.obj values) else Members.find? other w.data :=
  Members.find?_put ..

end WebSession

namespace Session

/-- A session in which nothing has happened since a run of the flow was given its nonce. -/
def anew (id : SessionId) (config : Config) (n : Uuid) : Session :=
  { new id config with nonce := some n }

theorem stored_anew (id : SessionId) (config : Config) (n : Uuid) :
    (anew id config n).stored = [(Key.nonce, Coded.encode n)] := rfl

theorem under_anew (id : SessionId) (config : Config) (n : Uuid) : (anew id config n).Under config :=
  ⟨rfl, rfl, rfl⟩

/-- A session is anew, and so is the web session, which is otherwise as it was. -/
structure Anew (id : SessionId) (config : Config) (n : Uuid) (web : WebSession) (s : Session)
    (web' : WebSession) : Prop where
  session : s = anew id config n
  id : web'.id = web.id
  space : web'.space? config.sessionSpace = some [(Key.nonce, Coded.encode n)]
  visitSpace : Members.find? config.visitSpace web'.data = none
  others : ∀ key, key ≠ config.sessionSpace → key ≠ config.visitSpace →
    Members.find? key web'.data = Members.find? key web.data
  load : load web' config = s

variable {config : Config} {s : Session} {web : WebSession}

theorem clear_fst (under : s.Under config) (n : Uuid) :
    (s.clear web n).1 = anew s.id config n := by
  simp only [clear, anew, new, under.space, under.visitSpace, under.unknownNames]

theorem clear_snd (under : s.Under config) (n : Uuid) :
    (s.clear web n).2 = ((web.remove config.sessionSpace).remove config.visitSpace).replace
      config.sessionSpace [(Key.nonce, Coded.encode n)] := by
  have hstore : (s.clear web n).2 =
      (s.clear web n).1.store ((web.remove s.space).remove s.visitSpace) := rfl
  rw [hstore, clear_fst under, store, (under_anew s.id config n).space, stored_anew, under.space,
    under.visitSpace]

/-- Nothing of the run before is left. -/
theorem anew_clear (distinct : config.sessionSpace ≠ config.visitSpace) (under : s.Under config)
    (same : web.id = s.id) (n : Uuid) :
    Anew s.id config n web (s.clear web n).1 (s.clear web n).2 := by
  have hvisit : Members.find? config.visitSpace (s.clear web n).2.data = none := by
    rw [clear_snd under, WebSession.find?_replace, if_neg distinct.symm, WebSession.find?_remove,
      if_pos rfl]
  constructor
  case session => exact clear_fst under n
  case id => rw [clear_snd under]; rfl
  case space => rw [clear_snd under, WebSession.space?_replace_self]
  case visitSpace => exact hvisit
  case others =>
    intro key hs hv
    rw [clear_snd under, WebSession.find?_replace, if_neg hs, WebSession.find?_remove, if_neg hv,
      WebSession.find?_remove, if_neg hs]
  case load =>
    have hpii : (load (s.clear web n).2 config).visitPii = none := by
      rw [visitPii_load, WebSession.space?, hvisit]
      rfl
    have hstore : (s.clear web n).2 =
        (anew s.id config n).store ((web.remove s.space).remove s.visitSpace) := by
      rw [← @clear_fst _ _ web under n]
      rfl
    rw [hstore] at hpii ⊢
    rw [load_store_eq (under_anew s.id config n), hpii, clear_fst under]
    have hid : ((web.remove s.space).remove s.visitSpace).id = s.id := same
    rw [hid]
    rfl

/-! ## The run of the flow -/

/-- The session belongs to a run of the flow. -/
structure OfFlow (id : SessionId) (flow : Option Uuid) (s : Session) : Prop where
  id : s.id = id
  nonce : s.nonce = flow

variable {id : SessionId} {flow : Option Uuid}

/-- No act but a reload from another web session takes a session out of its run. -/
theorem flow_perform {s s' : Session} {a : Act} (h : perform config s a = some s')
    (under : s.Under config) (own : ∀ web, a = .reload web → web.id = id)
    (hs : s.OfFlow id flow) : s'.OfFlow id flow := by
  obtain ⟨_, _, _, _, _, rfl, hid, -⟩ := perform_frame h under
  refine ⟨?_, hs.nonce⟩
  rcases hid with rfl | ⟨web, rfl, rfl⟩
  · exact hs.id
  · exact own web rfl

theorem flow_run (under : s.Under config) (hs : s.OfFlow id flow) {acts : List Act}
    (own : ∀ web, .reload web ∈ acts → web.id = id) (taken : List Act) :
    (acts.foldl (Run.next config) ⟨s, taken⟩).session.OfFlow id flow := by
  induction acts generalizing s taken with
  | nil => exact hs
  | cons a acts ih =>
    have own' : ∀ web, .reload web ∈ acts → web.id = id :=
      fun web hw => own web (List.mem_cons_of_mem a hw)
    rw [List.foldl_cons, Run.next]
    split
    · rename_i s' h
      refine ih (under_perform h under) (flow_perform h under (fun web e => own web ?_) hs) own' _
      rw [e]
      exact List.mem_cons_self
    · exact ih under hs own' taken

end Session

end Proofing
