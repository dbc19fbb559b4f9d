import Proofing.Proofs.Session.Acts
import Proofing.Session.Staging
/-
  Proofing — personal data is staged without loss.

  The text of personal data is read as that data, is the text of no other data
  (`StagedText.ofPii_inj`) and is not blank, so there is something staged in a
  session that stages it (`Stages`), and what is staged is that data.  This stays
  so until it is taken into the vault or everything is dropped: what is staged is
  stored and loaded with the session (`Stages.reload`), and nothing that is
  done with the session touches it (`staged_perform`, `Stages.performAll`).
-/
namespace Proofing

/-- Different personal data has different texts. -/
theorem StagedText.ofPii_inj {p q : Pii} : (ofPii p).json = (ofPii q).json ↔ p = q := by
  constructor
  · intro h
    have read : Pii.ofText? p.text = Pii.ofText? q.text := congrArg Pii.ofText? h
    rw [Pii.ofText?_text, Pii.ofText?_text] at read
    exact Option.some.inj read
  · rintro rfl
    rfl

namespace Session
variable {config : Config} {s s' : Session} {a : Act} {p : Pii}

theorem hasStaged_eq_true : s.hasStaged = true ↔ ∃ t, s.staged = some t ∧ t.isBlank = false := by
  unfold hasStaged
  cases s.staged <;> simp

/-- Personal data is what a session has staged, and is not taken for nothing. -/
structure Stages (s : Session) (p : Pii) : Prop where
  staged : s.staged = some (.ofPii p)
  hasStaged : s.hasStaged = true
  read : s.staged.bind StagedText.toPii? = some p

theorem stages_iff : s.Stages p ↔ s.staged = some (.ofPii p) := by
  constructor
  · exact Stages.staged
  · intro h
    refine ⟨h, hasStaged_eq_true.2 ⟨_, h, StagedText.isBlank_ofPii p⟩, ?_⟩
    rw [h, Option.bind_some, StagedText.toPii?_ofPii]

theorem stages_stage (s : Session) (p : Pii) : (s.stage (.ofPii p)).Stages p :=
  stages_iff.2 rfl

/-! ## As long as it is staged -/

/-- Nothing that is done with a session touches what is staged. -/
theorem staged_perform (h : perform config s a = some s') (under : s.Under config) :
    s'.staged = s.staged := by
  obtain ⟨_, _, _, _, _, rfl, -⟩ := perform_frame h under
  rfl

/-- What is staged is stored and loaded with the session. -/
theorem Stages.reload (h : s.Stages p) (under : s.Under config) (web : WebSession) :
    (load (s.store web) config).Stages p := by
  rw [stages_iff, load_store_eq under]
  exact h.staged

/-- The session after some acts; what is refused leaves it as it is. -/
def performAll (config : Config) (s : Session) (acts : List Act) : Session :=
  acts.foldl (fun s a => (perform config s a).getD s) s

theorem Stages.performAll (h : s.Stages p) (under : s.Under config) (acts : List Act) :
    (performAll config s acts).Stages p := by
  induction acts generalizing s with
  | nil => exact h
  | cons a acts ih =>
    change (Session.performAll config ((perform config s a).getD s) acts).Stages p
    cases hs : perform config s a with
    | none => exact ih h under
    | some s' =>
      exact ih (stages_iff.2 ((staged_perform hs under).trans h.staged)) (under_perform hs under)

/-! ## Without loss -/

/-- What the text of personal data is good for. -/
structure Lossless (p : Pii) : Prop where
  /-- The text is read as the data. -/
  read : (StagedText.ofPii p).toPii? = some p
  notBlank : (StagedText.ofPii p).isBlank = false
  /-- Other data has another text. -/
  own (q : Pii) : (StagedText.ofPii q).json = (StagedText.ofPii p).json ↔ q = p
  /-- The data can be staged in any session. -/
  stages (s : Session) : (s.stage (.ofPii p)).Stages p
  /-- It is still staged in the next request, whatever is in the web session. -/
  stored {s : Session} {config : Config} (h : s.Stages p) (under : s.Under config)
    (web : WebSession) : (load (s.store web) config).Stages p
  /-- It is still staged after anything that is done with the session, in any number of requests. -/
  performed {s : Session} {config : Config} (h : s.Stages p) (under : s.Under config)
    (acts : List Act) : (performAll config s acts).Stages p

/-- **Personal data is staged without loss**, whatever parts are there and whatever characters they
    have. -/
theorem staging_lossless (p : Pii) : Lossless p where
  read := StagedText.toPii?_ofPii p
  notBlank := StagedText.isBlank_ofPii p
  own _ := StagedText.ofPii_inj
  stages s := stages_stage s p
  stored h under web := h.reload under web
  performed h under acts := h.performAll under acts

/-- Data with the characters that a text of JSON writes in a way of their own, an empty part, and
    parts that are not there. -/
def awkward : Pii :=
  { Pii.empty with
    firstName := some "\"\\\n\u0001\u007fé😀", ssn := some "", stateIdJurisdiction := some "\u2028" }

example : (StagedText.ofPii awkward).json = "\x7b\"first_name\":\"\\\"\\\\\\n\\u0001\u007fé😀\"," ++
    "\"ssn\":\"\",\"state_id_jurisdiction\":\"\u2028\"\x7d" := by
  decide +kernel

/-- A blank text gives way to the data, which stays through two requests. -/
theorem staging_lossless_awkward :
    let web : WebSession := ⟨⟨"s"⟩, [("idv", .str "none")]⟩
    let s := frail.stage (.ofPii awkward)
    frail.Under .default ∧ (StagedText.ofPii awkward).toPii? = some awkward ∧ s.Stages awkward ∧
      (performAll .default s [.reload web, .set "ssn" none, .reset .afterSsn, .set "no name" none,
        .acknowledgeKey, .reload web]).Stages awkward :=
  have under : frail.Under .default := ⟨rfl, rfl, rfl⟩
  have lossless := staging_lossless awkward
  ⟨under, lossless.read, lossless.stages frail,
    lossless.performed (lossless.stages frail) (under.update ..) _⟩

end Session

end Proofing
