import Proofing.Proofs.Session.Acts
/-
  Proofing — resets in a row.

  The resets of a session overlap, but none of them brings back what another one
  has dropped.  So a row of resets (`Session.resets`) drops what any one of them
  drops, whatever their order and however often each is repeated.

  * `Dropped` says what is left of a session after resets, part by part;
  * `dropped_drop`, `Dropped.trans`: it is what one reset leaves, and what resets
    leave of what others have left;
  * `Dropped.unique`: no two sessions can be left where the same is dropped;
  * `resets_unordered`: so all that counts is which resets there are in a row.
-/
namespace Proofing.Session

variable {s s' s'' : Session} {rs rs' : List Reset}

/-- What resets in a row answer, and the session after the last one. -/
def resets (s : Session) : List Reset → List ResetOutcome × Session
  | [] => ([], s)
  | r :: rs => ((s.reset r).1 :: ((s.reset r).2.resets rs).1, ((s.reset r).2.resets rs).2)

/-! ## What is dropped -/

/-- A reset drops attributes, and the code that was sent. -/
theorem drop_eq (s : Session) (r : Reset) :
    ∃ attributes sentCode, s.drop r = { s with attributes, sentCode } := by
  cases r <;> exact ⟨_, _, rfl⟩

theorem profileId_drop (s : Session) (r : Reset) : (s.drop r).profileId = s.profileId := by
  cases r <;> rfl

/-- Of a session, all is left but what one of the resets drops. -/
structure Dropped (s : Session) (rs : List Reset) (s' : Session) : Prop where
  applicant : s'.held .applicant =
    if .afterSsn ∈ rs ∨ .applicant ∈ rs then none else s.held .applicant
  resolution : s'.held .resolutionSuccessful =
    if .afterSsn ∈ rs ∨ .resolution ∈ rs then none else s.held .resolutionSuccessful
  phone : s'.attributes.phone =
    if .afterSsn ∈ rs ∨ .afterResolution ∈ rs ∨ .phone ∈ rs then .notStarted
    else s.attributes.phone
  sentCode : s'.sentCode =
    if .afterSsn ∈ rs ∨ .afterResolution ∈ rs ∨ .phone ∈ rs then none else s.sentCode
  mechanism : s'.held .mechanism =
    if .afterResolution ∈ rs then some .phone else s.held .mechanism
  /-- Every other attribute is as it was. -/
  slots : ∀ slot, slot ≠ .applicant → slot ≠ .resolutionSuccessful → slot ≠ .mechanism →
    s'.held slot = s.held slot
  /-- So is all that is no attribute, but for the code that was sent. -/
  others : s' = { s with attributes := s'.attributes, sentCode := s'.sentCode }

theorem dropped_nil (s : Session) : s.Dropped [] s := by
  constructor <;> simp

theorem dropped_drop (s : Session) (r : Reset) : s.Dropped [r] (s.drop r) := by
  constructor
  case slots =>
    intro slot ha hr hm
    cases r <;>
      simp [drop, dropApplicant, dropResolution, dropPhone, returnToPhone, held, put,
        Attributes.put, ha, hr, hm]
  case others => cases r <;> rfl
  all_goals
    cases r <;>
      simp [drop, dropApplicant, dropResolution, dropPhone, returnToPhone, held, put,
        Attributes.put]

/-- What is dropped once stays dropped. -/
theorem Dropped.trans (h : s.Dropped rs s') (h' : s'.Dropped rs' s'') :
    s.Dropped (rs ++ rs') s'' := by
  constructor
  case slots =>
    intro slot ha hr hm
    rw [h'.slots slot ha hr hm, h.slots slot ha hr hm]
  case others => rw [h'.others, h.others]
  case applicant => rw [h'.applicant, h.applicant]; simp only [List.mem_append]; grind
  case resolution => rw [h'.resolution, h.resolution]; simp only [List.mem_append]; grind
  case phone => rw [h'.phone, h.phone]; simp only [List.mem_append]; grind
  case sentCode => rw [h'.sentCode, h.sentCode]; simp only [List.mem_append]; grind
  case mechanism => rw [h'.mechanism, h.mechanism]; simp only [List.mem_append]; grind

/-- Some resets drop all that others drop, and no more. -/
structure SameDrops (rs rs' : List Reset) : Prop where
  applicant : .afterSsn ∈ rs ∨ .applicant ∈ rs ↔ .afterSsn ∈ rs' ∨ .applicant ∈ rs'
  resolution : .afterSsn ∈ rs ∨ .resolution ∈ rs ↔ .afterSsn ∈ rs' ∨ .resolution ∈ rs'
  phone : .afterSsn ∈ rs ∨ .afterResolution ∈ rs ∨ .phone ∈ rs ↔
    .afterSsn ∈ rs' ∨ .afterResolution ∈ rs' ∨ .phone ∈ rs'
  mechanism : .afterResolution ∈ rs ↔ .afterResolution ∈ rs'

/-- Where the same is dropped, the same is left. -/
theorem Dropped.unique (h : s.Dropped rs s') (h' : s.Dropped rs' s'') (same : SameDrops rs rs') :
    s' = s'' := by
  have hphone : s'.attributes.phone = s''.attributes.phone := by
    rw [h.phone, h'.phone]
    simp only [same.phone]
  have hcode : s'.sentCode = s''.sentCode := by
    rw [h.sentCode, h'.sentCode]
    simp only [same.phone]
  have hheld : ∀ slot, s'.held slot = s''.held slot := by
    intro slot
    by_cases ha : slot = .applicant
    · subst ha
      rw [h.applicant, h'.applicant]
      simp only [same.applicant]
    by_cases hr : slot = .resolutionSuccessful
    · subst hr
      rw [h.resolution, h'.resolution]
      simp only [same.resolution]
    by_cases hm : slot = .mechanism
    · subst hm
      rw [h.mechanism, h'.mechanism]
      simp only [same.mechanism]
    · rw [h.slots slot ha hr hm, h'.slots slot ha hr hm]
  rw [h.others, h'.others, Attributes.ext hheld hphone, hcode]

/-- Dropping the same once more drops nothing. -/
theorem drop_drop (s : Session) (r : Reset) : (s.drop r).drop r = s.drop r := by
  have again := (s.dropped_drop r).trans ((s.drop r).dropped_drop r)
  refine again.unique (s.dropped_drop r) ?_
  constructor <;> simp

/-! ## In a row -/

theorem resets_of_profileId {id : ProfileId} (h : s.profileId = some id) (rs : List Reset) :
    s.resets rs = (rs.map fun _ => .locked, s) := by
  induction rs with
  | nil => rfl
  | cons r rs ih => rw [resets, reset_of_profileId h, ih]; rfl

theorem resets_of_none (h : s.profileId = none) (r : Reset) (rs : List Reset) :
    s.resets (r :: rs) = (.cleared :: ((s.drop r).resets rs).1, ((s.drop r).resets rs).2) := by
  rw [resets, reset_of_none h]

theorem answers_of_none (h : s.profileId = none) (rs : List Reset) :
    (s.resets rs).1 = rs.map fun _ => .cleared := by
  induction rs generalizing s with
  | nil => rfl
  | cons r rs ih => rw [resets_of_none h, ih ((s.profileId_drop r).trans h)]; rfl

/-- A row of resets drops what one of them drops. -/
theorem dropped_resets (h : s.profileId = none) (rs : List Reset) :
    s.Dropped rs (s.resets rs).2 := by
  induction rs generalizing s with
  | nil => exact s.dropped_nil
  | cons r rs ih =>
    rw [resets_of_none h]
    exact (s.dropped_drop r).trans (ih ((s.profileId_drop r).trans h))

/-- Where the same is dropped, rows of resets lead to the same session. -/
theorem resets_of_sameDrops (h : s.profileId = none) (same : SameDrops rs rs') :
    (s.resets rs).2 = (s.resets rs').2 :=
  (dropped_resets h rs).unique (dropped_resets h rs') same

theorem sameDrops_of_mem_iff (h : ∀ r, r ∈ rs ↔ r ∈ rs') : SameDrops rs rs' := by
  constructor <;> simp only [h]

/-- A row of resets is no more than which resets there are in it. -/
structure Unordered (s : Session) (rs : List Reset) : Prop where
  /-- None of them is refused. -/
  answers : (s.resets rs).1 = rs.map fun _ => .cleared
  /-- What is left of the session is told by which resets occur. -/
  dropped : s.Dropped rs (s.resets rs).2
  /-- Another row in which the same resets occur leaves the same. -/
  occurring : ∀ rs', (∀ r, r ∈ rs' ↔ r ∈ rs) → (s.resets rs').2 = (s.resets rs).2
  /-- A reset may be repeated at once. -/
  twice : ∀ r, (s.resets (rs ++ [r, r])).2 = (s.resets (rs ++ [r])).2
  /-- Any two may change places. -/
  swapped : ∀ r r', (s.resets (rs ++ [r, r'])).2 = (s.resets (rs ++ [r', r])).2
  /-- The one for a new social security number is three of the others, in any order. -/
  parts : ∀ order, order.Perm [.applicant, .resolution, .phone] →
    (s.resets (rs ++ order)).2 = (s.resets (rs ++ [.afterSsn])).2

/-- **Resets are neither ordered nor counted.**  Of a session without a profile a row of resets drops
    what one of them drops and nothing else, in whatever order they are made and however often. -/
theorem resets_unordered (h : s.profileId = none) (rs : List Reset) : s.Unordered rs := by
  constructor
  case answers => exact answers_of_none h rs
  case dropped => exact dropped_resets h rs
  case occurring =>
    intro rs' same
    exact resets_of_sameDrops h (sameDrops_of_mem_iff same)
  case twice =>
    intro r
    refine resets_of_sameDrops h (sameDrops_of_mem_iff fun r' => ?_)
    simp
  case swapped =>
    intro r r'
    refine resets_of_sameDrops h (sameDrops_of_mem_iff fun r'' => ?_)
    simp [or_comm]
  case parts =>
    intro order hperm
    refine resets_of_sameDrops h ?_
    constructor <;> simp [hperm.mem_iff]

/-- A session that has something of all that resets drop, and a path to go back to. -/
def midway : Session :=
  { new ⟨"web"⟩ .default with
    attributes :=
      (((({ Attributes.empty with phone := .userConfirmed }).put .applicant (some .empty)).put
        .resolutionSuccessful (some true)).put .mechanism (some .letter)).put .goBackPath (some "/")
    sentCode := some ⟨⟨"+13015550199", by decide⟩, .sms, ⟨0⟩, 600⟩ }

theorem resets_unordered_midway :
    midway.profileId = none ∧ midway.Unordered [.afterSsn, .phone, .afterResolution, .afterSsn] :=
  ⟨rfl, resets_unordered rfl _⟩

end Proofing.Session
