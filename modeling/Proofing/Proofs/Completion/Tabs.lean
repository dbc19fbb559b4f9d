import Proofing.Proofs.Completion.Course
/-
  Proofing — two requests for a profile, each with its own copy of the session.

  A request loads the session from the web session, completes the flow step by
  step, and stores its copy, whatever came of it (`Turn`).  What is stored takes
  the place of what was there, so it depends on the order of the turns whether
  the web session knows of the profile in the end.

  * `Sound` is what holds all the time: no more than one profile is committed,
    and every copy is of the same session;
  * `Kept` says which copies have the profile, and whether the web session has it;
  * `finalized_run` is about every order of the turns.
-/
namespace Proofing.Completion

/-- How far a request is with the session. -/
inductive Stage where
  /-- Nothing is loaded yet. -/
  | ahead
  /-- The request has its copy. -/
  | loaded
  /-- The copy is stored, and the request at its end. -/
  | stored
  deriving DecidableEq

/-- Two requests of one web session. -/
structure Tabs where
  web : WebSession
  crowd : Crowd 2
  stage : Fin 2 → Stage

/-- What happens next. -/
inductive Turn where
  | load (i : Fin 2)
  /-- The next step of a request. -/
  | step (i : Fin 2)
  | store (i : Fin 2)
  deriving DecidableEq

namespace Tabs

/-- The requests before they have done anything. -/
def opening (config : Config) (user : UserId) (web : WebSession) (office : Office)
    (requests : Fin 2 → Request) : Tabs where
  web := web
  crowd :=
    { office
      clients := fun i => ⟨{ requests i with config, user }, .load web config, .waiting⟩ }
  stage := fun _ => .ahead

/-- A request has done something. -/
def seat (w : Tabs) (i : Fin 2) (stage : Stage) (x : Office × Client) : Tabs :=
  { w with crowd := w.crowd.put i x, stage := Function.update w.stage i stage }

/-- The next step of a request with its copy. -/
def advance (w : Tabs) (i : Fin 2) : Tabs :=
  w.seat i .loaded ((w.crowd.clients i).step w.crowd.office)

/-- What a turn leads to, if it is the request's turn. -/
def next (config : Config) (w : Tabs) : Turn → Option Tabs
  | .load i =>
    let c := w.crowd.clients i
    if w.stage i = .ahead then
      some (w.seat i .loaded (w.crowd.office, { c with session := .load w.web config }))
    else none
  | .step i => if w.stage i = .loaded then some (w.advance i) else none
  | .store i =>
    let c := w.crowd.clients i
    if w.stage i = .loaded ∧ c.progress.result?.isSome then
      some { w.seat i .stored (w.crowd.office, c) with web := c.session.store w.web }
    else none

/-- What a turn can lead to. -/
inductive Leads (config : Config) (w : Tabs) : Turn → Tabs → Prop
  | load {i : Fin 2} (ahead : w.stage i = .ahead) :
    Leads config w (.load i) (w.seat i .loaded
      (w.crowd.office, { w.crowd.clients i with session := .load w.web config }))
  | step {i : Fin 2} (loaded : w.stage i = .loaded) : Leads config w (.step i) (w.advance i)
  | store {i : Fin 2} (loaded : w.stage i = .loaded)
      (ended : (w.crowd.clients i).progress.result?.isSome) :
    Leads config w (.store i) { w.seat i .stored (w.crowd.office, w.crowd.clients i) with
      web := (w.crowd.clients i).session.store w.web }

theorem leads_of_next {config : Config} {w w' : Tabs} {t : Turn} (h : next config w t = some w') :
    Leads config w t w' := by
  cases t with
  | load i =>
    obtain ⟨hi, h⟩ := Option.ite_none_right_eq_some.1 h
    cases h
    exact .load hi
  | step i =>
    obtain ⟨hi, h⟩ := Option.ite_none_right_eq_some.1 h
    cases h
    exact .step hi
  | store i =>
    obtain ⟨⟨hi, hr⟩, h⟩ := Option.ite_none_right_eq_some.1 h
    cases h
    exact .store hi hr

theorem next_load {w : Tabs} {i : Fin 2} (h : w.stage i = .ahead) (config : Config) :
    next config w (.load i) = some (w.seat i .loaded
      (w.crowd.office, { w.crowd.clients i with session := .load w.web config })) :=
  if_pos h

/-- What some turns lead to. -/
def run (config : Config) (w : Tabs) (ts : List Turn) : Option Tabs :=
  ts.foldlM (next config) w

theorem run_append (config : Config) (w : Tabs) (ts ts' : List Turn) :
    run config w (ts ++ ts') = (run config w ts).bind fun w => run config w ts' :=
  List.foldlM_append

theorem run_cons_of_next {config : Config} {w w' : Tabs} {t : Turn} (h : next config w t = some w')
    (ts : List Turn) : run config w (t :: ts) = run config w' ts := by
  rw [run, List.foldlM_cons, h]
  rfl

/-- What holds at first and is kept by every turn holds in the end. -/
theorem run_induct {config : Config} {w₀ w : Tabs} {P : List Turn → Tabs → Prop} (first : P [] w₀)
    (turn : ∀ ts t w w', P ts w → next config w t = some w' → P (ts ++ [t]) w') {ts : List Turn}
    (h : run config w₀ ts = some w) : P ts w := by
  induction ts using List.reverseRecOn generalizing w with
  | nil => cases h; exact first
  | append_singleton ts t ih =>
    rw [run_append, Option.bind_eq_some_iff] at h
    obtain ⟨w₁, h₁, h⟩ := h
    refine turn ts t w₁ w (ih h₁) ?_
    rw [← h, run, List.foldlM_cons]
    exact (bind_pure _).symm

/-! ## What holds all the time -/

/-- What is known of a request and its copy at a stage. -/
structure Seated (config : Config) (user : UserId) (s₀ : Session) (stage : Stage) (c : Client) :
    Prop where
  course : Course s₀ user c
  under : c.request.config = config
  user : c.request.user = user
  kin : Kin config s₀ c.session
  ahead : stage = .ahead → c.progress = .waiting
  stored : stage = .stored → c.progress.result?.isSome

/-- What holds all the time. -/
structure Sound (config : Config) (user : UserId) (s₀ : Session) (start : UInt64) (w : Tabs) :
    Prop where
  seated : ∀ i, Seated config user s₀ (w.stage i) (w.crowd.clients i)
  web : w.web.id = s₀.id
  page : Kin config s₀ (.load w.web config)
  shared : w.crowd.Shared (.derive s₀.id s₀.nonce user) start

section
variable {config : Config} {user : UserId} {s₀ : Session} {start : UInt64} {w w' : Tabs}
  {i j : Fin 2} {stage : Stage} {x : Office × Client}

@[simp] theorem stage_seat_self : (w.seat i stage x).stage i = stage :=
  Function.update_self ..

theorem stage_seat_of_ne (h : j ≠ i) : (w.seat i stage x).stage j = w.stage j :=
  Function.update_of_ne h ..

@[simp] theorem clients_seat_self : (w.seat i stage x).crowd.clients i = x.2 :=
  Crowd.clients_put_self ..

theorem clients_seat_of_ne (h : j ≠ i) :
    (w.seat i stage x).crowd.clients j = w.crowd.clients j :=
  Crowd.clients_put_of_ne _ h _

theorem forall_seat {P : Fin 2 → Stage → Client → Prop} (hi : P i stage x.2)
    (h : ∀ j, j ≠ i → P j (w.stage j) (w.crowd.clients j)) (j : Fin 2) :
    P j ((w.seat i stage x).stage j) ((w.seat i stage x).crowd.clients j) := by
  by_cases e : j = i
  · subst e
    rw [stage_seat_self, clients_seat_self]
    exact hi
  · rw [stage_seat_of_ne e, clients_seat_of_ne e]
    exact h j e

theorem sound_opening {web : WebSession} (office : Office) (requests : Fin 2 → Request) :
    Sound config user (.load web config) office.registry.nextId
      (opening config user web office requests) := by
  have kin : Kin config (.load web config) (.load web config) :=
    ⟨Session.under_load web config, rfl, rfl, rfl⟩
  have numbering : ∃ order, Crowd.Numbering office.registry.nextId
      (opening config user web office requests).crowd order :=
    ⟨[], .nil, by simp [opening], fun _ hi => absurd hi List.not_mem_nil, fun _ _ => nofun⟩
  exact ⟨fun i => ⟨course_of_waiting rfl kin rfl, rfl, rfl, kin, fun _ => rfl, nofun⟩,
    (Session.id_load web config).symm, kin, numbering, fun _ _ => nofun,
    fun _ _ => nofun⟩

theorem Sound.next (h : Sound config user s₀ start w) {t : Turn}
    (ht : next config w t = some w') : Sound config user s₀ start w' := by
  cases leads_of_next ht with
  | @load i hi =>
    have hw := (h.seated i).ahead hi
    have hseat : Seated config user s₀ .loaded
        { w.crowd.clients i with session := .load w.web config } :=
      ⟨course_of_waiting hw h.page (h.seated i).user, (h.seated i).under, (h.seated i).user, h.page,
        nofun, nofun⟩
    have hcreated : (w.crowd.clients i).progress.created? = none := by rw [hw]; rfl
    exact ⟨forall_seat (P := fun _ => Seated config user s₀) hseat fun j _ => h.seated j, h.web,
      h.page, h.shared.idle id hcreated rfl⟩
  | @step i =>
    have hi := h.seated i
    have hseat : Seated config user s₀ .loaded ((w.crowd.clients i).step w.crowd.office).2 :=
      ⟨hi.course.step _, (congrArg Request.config (request_step _ _)).trans hi.under,
        (congrArg Request.user (request_step _ _)).trans hi.user, hi.course.kin_step hi.kin _,
        nofun, nofun⟩
    refine ⟨forall_seat (P := fun _ => Seated config user s₀) hseat fun j _ => h.seated j, h.web,
      h.page, ?_⟩
    cases hi.course with
    | early ready fits => exact h.shared.effect (by decide) (fits.step ready rfl _).2
    | barred hb =>
      obtain ⟨e, he⟩ := hb.step w.crowd.office
      rw [advance, he]
      exact h.shared.idle nofun rfl hb.committed?.symm
  | @store i _ hr =>
    have hi := h.seated i
    have hseat : Seated config user s₀ .stored (w.crowd.clients i) :=
      ⟨hi.course, hi.under, hi.user, hi.kin, nofun, fun _ => hr⟩
    refine ⟨forall_seat (P := fun _ => Seated config user s₀) hseat fun j _ => h.seated j, h.web,
      (hi.kin.reload h.web).1, ?_⟩
    change (w.crowd.put i _).Shared _ _
    rw [Crowd.put_same]
    exact h.shared

end

/-! ## Which copies have the profile -/

theorem concat_sublist_concat {α : Type} {l l' : List α} {a b : α} :
    (l ++ [a]).Sublist (l' ++ [b]) ↔ (l ++ [a]).Sublist l' ∨ (a = b ∧ l.Sublist l') := by
  have hreverse (l₁ l₂ : List α) : l₁.Sublist l₂ ↔ l₁.reverse.Sublist l₂.reverse :=
    List.reverse_sublist.symm
  rw [hreverse, hreverse _ l', hreverse l]
  simp only [List.reverse_append, List.reverse_singleton, List.singleton_append]
  exact List.cons_sublist_cons'

/-- The profile in the copy of `j`, where `i` has made it: it is there if it was stored before the
    copy was loaded. -/
def copied (ts : List Turn) (i j : Fin 2) (id : ProfileId) : Option ProfileId :=
  if .store i ∈ ts ∧ .load j ∈ ts ∧ ¬ [.load j, .store i].Sublist ts then some id else none

/-- The profile in the web session: it is there once it is stored, unless an older copy is stored
    later. -/
def left (ts : List Turn) (i j : Fin 2) (id : ProfileId) : Option ProfileId :=
  if .store i ∈ ts ∧ ¬ [.load j, .store i, .store j].Sublist ts then some id else none

section
variable {ts : List Turn} {i j : Fin 2}

theorem pair_sublist {a b c : Turn} :
    [a, b].Sublist (ts ++ [c]) ↔ [a, b].Sublist ts ∨ (b = c ∧ a ∈ ts) := by
  rw [← List.singleton_sublist]
  exact concat_sublist_concat (l := [a])

theorem triple_sublist {a b c d : Turn} :
    [a, b, c].Sublist (ts ++ [d]) ↔ [a, b, c].Sublist ts ∨ (c = d ∧ [a, b].Sublist ts) :=
  concat_sublist_concat (l := [a, b])

theorem not_sublist {l : List Turn} {a : Turn} (h : a ∉ ts) (ha : a ∈ l) : ¬ l.Sublist ts :=
  fun hl => h (hl.subset ha)

theorem copied_of_not_stored (h : .store i ∉ ts) (j : Fin 2) (id : ProfileId) :
    copied ts i j id = none :=
  if_neg fun hs => h hs.1

theorem left_of_not_stored (h : .store i ∉ ts) (j : Fin 2) (id : ProfileId) :
    left ts i j id = none :=
  if_neg fun hs => h hs.1

theorem copied_step (k i j : Fin 2) (id : ProfileId) :
    copied (ts ++ [.step k]) i j id = copied ts i j id := by
  simp [copied, pair_sublist]

theorem left_step (k i j : Fin 2) (id : ProfileId) :
    left (ts ++ [.step k]) i j id = left ts i j id := by
  simp [left, triple_sublist]

/-- A copy that is loaded has what is in the web session. -/
theorem copied_load (h : .load j ∉ ts) (i : Fin 2) (id : ProfileId) :
    copied (ts ++ [.load j]) i j id = left ts i j id := by
  simp [copied, left, pair_sublist, not_sublist h]

theorem left_load (k i j : Fin 2) (id : ProfileId) :
    left (ts ++ [.load k]) i j id = left ts i j id := by
  simp [left, triple_sublist]

/-- Storing changes no copy. -/
theorem copied_store {k : Fin 2} (h : .store k ∉ ts) (i j : Fin 2) (id : ProfileId) :
    copied (ts ++ [.store k]) i j id = copied ts i j id := by
  by_cases hk : i = k
  · subst hk
    rw [copied_of_not_stored h, copied]
    exact if_neg fun ⟨_, hl, hs⟩ => hs (pair_sublist.2 (.inr ⟨rfl, by simpa using hl⟩))
  · simp [copied, pair_sublist, hk]

/-- Who has made the profile stores it. -/
theorem left_store_self (h : .store i ∉ ts) (j : Fin 2) (id : ProfileId) :
    left (ts ++ [.store i]) i j id = some id := by
  simp [left, triple_sublist, not_sublist h]

/-- The other one stores what is in its copy. -/
theorem left_store_other (hji : j ≠ i) (loaded : .load j ∈ ts) (h : .store j ∉ ts)
    (id : ProfileId) :
    left (ts ++ [.store j]) i j id = copied ts i j id := by
  simp [left, copied, triple_sublist, not_sublist h, loaded, hji.symm]

end

/-- The stages are those to which the turns have led. -/
structure Taken (ts : List Turn) (w : Tabs) : Prop where
  loaded : ∀ i, .load i ∈ ts ↔ w.stage i ≠ .ahead
  stored : ∀ i, .store i ∈ ts ↔ w.stage i = .stored

/-- Which copies have the profile that is made, and whether the web session has it. -/
structure Kept (config : Config) (ts : List Turn) (w : Tabs) : Prop where
  /-- There is no profile yet. -/
  blank : (∀ i, ¬ w.crowd.Committed i) →
    (Session.load w.web config).profileId = none ∧
      ∀ i, (w.crowd.clients i).session.profileId = none
  copy : ∀ i j p, j ≠ i → (w.crowd.clients i).progress.committed? = some p →
    (w.crowd.clients j).session.profileId = copied ts i j p.id
  page : ∀ i j p, j ≠ i → (w.crowd.clients i).progress.committed? = some p →
    (Session.load w.web config).profileId = left ts i j p.id

section
variable {config : Config} {user : UserId} {s₀ : Session} {start : UInt64} {w w' : Tabs}
  {ts : List Turn} {i : Fin 2}

theorem Taken.seat (h : Taken ts w) (hi : w.stage i ≠ .stored) (t : Turn) (stage : Stage)
    (loaded : .load i = t ∨ .load i ∈ ts) (hs : stage ≠ .ahead)
    (stored : .store i = t ↔ stage = .stored)
    (others : ∀ j, j ≠ i → .load j ≠ t ∧ .store j ≠ t) (x : Office × Client) :
    Taken (ts ++ [t]) (w.seat i stage x) := by
  constructor <;> intro j <;> rw [List.mem_append, List.mem_singleton] <;> by_cases e : j = i
  · subst e
    rw [stage_seat_self]
    exact iff_of_true loaded.symm hs
  · rw [stage_seat_of_ne e, ← h.loaded j]
    exact or_iff_left (others j e).1
  · subst e
    rw [stage_seat_self, ← stored, h.stored, or_iff_right hi]
  · rw [stage_seat_of_ne e, ← h.stored j]
    exact or_iff_left (others j e).2

theorem Taken.next (h : Taken ts w) {t : Turn} (ht : next config w t = some w') :
    Taken (ts ++ [t]) w' := by
  cases leads_of_next ht with
  | load hi =>
    exact h.seat (by rw [hi]; decide) _ _ (.inl rfl) (by decide) (by simp) (by simp) _
  | @step i hi =>
    have hloaded : .load i ∈ ts := (h.loaded i).2 (by rw [hi]; decide)
    exact h.seat (by rw [hi]; decide) _ _ (.inr hloaded) (by decide) (by simp) (by simp) _
  | @store i hi =>
    have hloaded : .load i ∈ ts := (h.loaded i).2 (by rw [hi]; decide)
    have hseat := h.seat (by rw [hi]; decide) (.store i) .stored (.inr hloaded) (by decide)
      (by simp) (by simp) (w.crowd.office, w.crowd.clients i)
    exact ⟨hseat.loaded, hseat.stored⟩

theorem Kept.load (h : Kept config ts w) (taken : Taken ts w)
    (sound : Sound config user s₀ start w) (hi : w.stage i = .ahead) :
    Kept config (ts ++ [.load i]) (w.seat i .loaded
      (w.crowd.office, { w.crowd.clients i with session := .load w.web config })) := by
  have hnew : .load i ∉ ts := fun hl => (taken.loaded i).1 hl hi
  let c : Client := { w.crowd.clients i with session := .load w.web config }
  have hc : c.progress.committed? = (w.crowd.clients i).progress.committed? := rfl
  have same (j : Fin 2) :
      ((w.seat i .loaded (w.crowd.office, c)).crowd.clients j).progress.committed? =
        (w.crowd.clients j).progress.committed? := Crowd.committed?_put hc j
  constructor
  case blank =>
    intro hnone
    obtain ⟨hpage, hcopies⟩ := h.blank fun j hj => hnone j (by rwa [Crowd.Committed, same])
    exact ⟨hpage, forall_seat (P := fun _ _ c => c.session.profileId = none) hpage
      fun j _ => hcopies j⟩
  case copy =>
    intro k j p hjk hp
    rw [same] at hp
    have hki : k ≠ i := by
      rintro rfl
      rw [(sound.seated k).ahead hi] at hp
      cases hp
    obtain rfl : j = i := by omega
    rw [clients_seat_self, copied_load hnew]
    exact h.page k j p hjk hp
  case page =>
    intro k j p hjk hp
    rw [same] at hp
    rw [left_load]
    exact h.page k j p hjk hp

/-- A step commits a profile, or leaves it at what is committed. -/
theorem committed?_step {c : Client} (course : Course s₀ user c) (o : Office) :
    (c.step o).2.progress.committed? = c.progress.committed? ∨
      (c.progress.committed? = none ∧ (c.step o).2.progress.committed?.isSome = true) := by
  cases course with
  | early ready fits =>
    generalize hx : c.step o = x
    have heffect := (fits.step ready rfl o).2
    rw [hx] at heffect
    obtain ⟨o', c'⟩ := x
    cases heffect with
    | quiet _ _ _ _ committed => exact .inl committed
    | creates _ _ _ _ old committed => exact .inl (committed.trans old.symm)
    | commits _ _ _ old committed => exact .inr ⟨old, by rw [committed]; rfl⟩
  | barred hb =>
    obtain ⟨e, he⟩ := hb.step o
    rw [he]
    exact .inl hb.committed?.symm

/-- The step of a client commits its profile, or leaves everybody at what is committed. -/
theorem committed?_advance (course : Course s₀ user (w.crowd.clients i)) (j : Fin 2) :
    ((w.advance i).crowd.clients j).progress.committed? =
        (w.crowd.clients j).progress.committed? ∨
      (j = i ∧ ¬ w.crowd.Committed i ∧ (w.advance i).crowd.Committed i) := by
  rw [advance]
  by_cases hj : j = i
  · subst hj
    rw [Crowd.Committed, Crowd.Committed, clients_seat_self]
    rcases committed?_step course w.crowd.office with hsame | ⟨hold, hnew⟩
    · exact .inl hsame
    · exact .inr ⟨rfl, by rw [hold]; decide, hnew⟩
  · rw [clients_seat_of_ne hj]
    exact .inl rfl

/-- The step of a client changes no copy as long as there is no profile for it. -/
theorem session_advance {j : Fin 2} (h : ¬ (w.advance i).crowd.Committed j) :
    ((w.advance i).crowd.clients j).session = (w.crowd.clients j).session := by
  rw [advance] at h ⊢
  by_cases hj : j = i
  · subst hj
    rw [Crowd.Committed, clients_seat_self, Bool.not_eq_true, Option.isSome_eq_false_iff,
      Option.isNone_iff_eq_none] at h
    rw [clients_seat_self]
    exact session_step_of_uncommitted h
  · rw [clients_seat_of_ne hj]

theorem Kept.step (h : Kept config ts w) (taken : Taken ts w)
    (sound : Sound config user s₀ start w) (hi : w.stage i = .loaded) :
    Kept config (ts ++ [.step i]) (w.advance i) := by
  have hstored : .store i ∉ ts := by rw [taken.stored, hi]; decide
  have hsingle := (sound.next (t := .step i) (if_pos hi)).shared.single
  have hcommitted := committed?_advance (w := w) (sound.seated i).course
  have hsession (j : Fin 2) := session_advance (w := w) (i := i) (j := j)
  have hweb : (w.advance i).web = w.web := rfl
  generalize w.advance i = w' at *
  have hstays {j : Fin 2} (hj : w.crowd.Committed j) : w'.crowd.Committed j := by
    rcases hcommitted j with hsame | ⟨rfl, -, hnew⟩
    · rwa [Crowd.Committed, hsame]
    · exact hnew
  -- the profile was there before, or there was none at all
  have hbefore {k : Fin 2} {p : Profile}
      (hp : (w'.crowd.clients k).progress.committed? = some p) :
      (w.crowd.clients k).progress.committed? = some p ∨ (k = i ∧ ∀ l, ¬ w.crowd.Committed l) := by
    rcases hcommitted k with hsame | ⟨rfl, hold, hnew⟩
    · exact .inl (hsame.symm.trans hp)
    · refine .inr ⟨rfl, fun l hl => hold ?_⟩
      rwa [← hsingle l k (hstays hl) hnew]
  have hcopy {j k : Fin 2} {p : Profile} (hjk : j ≠ k)
      (hp : (w'.crowd.clients k).progress.committed? = some p) :
      (w'.crowd.clients j).session = (w.crowd.clients j).session :=
    hsession j fun hj => hjk (hsingle j k hj (Option.isSome_iff_exists.2 ⟨p, hp⟩))
  constructor
  case blank =>
    intro hnone
    obtain ⟨hpage, hcopies⟩ := h.blank fun j hj => hnone j (hstays hj)
    exact ⟨hweb ▸ hpage, fun j => by rw [hsession j (hnone j)]; exact hcopies j⟩
  case copy =>
    intro k j p hjk hp
    rw [hcopy hjk hp, copied_step]
    rcases hbefore hp with hold | ⟨rfl, hnone⟩
    · exact h.copy k j p hjk hold
    · rw [copied_of_not_stored hstored]
      exact (h.blank hnone).2 j
  case page =>
    intro k j p hjk hp
    rw [hweb, left_step]
    rcases hbefore hp with hold | ⟨rfl, hnone⟩
    · exact h.page k j p hjk hold
    · rw [left_of_not_stored hstored]
      exact (h.blank hnone).1

theorem Kept.store (h : Kept config ts w) (taken : Taken ts w)
    (sound : Sound config user s₀ start w) (hi : w.stage i = .loaded) (hr : (w.crowd.clients i).progress.result?.isSome) :
    Kept config (ts ++ [.store i]) { w.seat i .stored (w.crowd.office, w.crowd.clients i) with
      web := (w.crowd.clients i).session.store w.web } := by
  have hnew : .store i ∉ ts := by rw [taken.stored, hi]; decide
  have hloaded : .load i ∈ ts := by rw [taken.loaded, hi]; decide
  have hpage := ((sound.seated i).kin.reload sound.web).2
  unfold seat
  rw [Crowd.put_same]
  constructor
  case blank =>
    intro hnone
    obtain ⟨-, hcopies⟩ := h.blank hnone
    exact ⟨hpage.trans (hcopies i), hcopies⟩
  case copy =>
    intro k j p hjk hp
    rw [copied_store hnew]
    exact h.copy k j p hjk hp
  case page =>
    intro k j p hjk hp
    by_cases hki : k = i
    · subst hki
      rw [left_store_self hnew, ← (sound.seated k).course.recorded hp hr]
      exact hpage
    · obtain rfl : j = i := by omega
      rw [left_store_other hjk hloaded hnew, ← h.copy k j p hjk hp]
      exact hpage

theorem kept_opening {web : WebSession} (hid : (Session.load web config).profileId = none)
    (office : Office) (requests : Fin 2 → Request) :
    Kept config [] (opening config user web office requests) :=
  ⟨fun _ => ⟨hid, fun _ => hid⟩, fun _ _ _ _ => nofun, fun _ _ _ _ => nofun⟩

/-- What holds all the time, of two requests that have begun with a session without a profile. -/
structure Inv (config : Config) (user : UserId) (s₀ : Session) (start : UInt64) (ts : List Turn)
    (w : Tabs) : Prop where
  sound : Sound config user s₀ start w
  taken : Taken ts w
  kept : Kept config ts w

theorem Inv.next (h : Inv config user s₀ start ts w) {t : Turn} (ht : next config w t = some w') :
    Inv config user s₀ start (ts ++ [t]) w' := by
  refine ⟨h.sound.next ht, h.taken.next ht, ?_⟩
  cases leads_of_next ht with
  | load hi => exact h.kept.load h.taken h.sound hi
  | step hi => exact h.kept.step h.taken h.sound hi
  | store hi hr => exact h.kept.store h.taken h.sound hi hr

theorem inv_run {web : WebSession} (hid : (Session.load web config).profileId = none)
    {office : Office} {requests : Fin 2 → Request}
    (h : run config (opening config user web office requests) ts = some w) :
    Inv config user (.load web config) office.registry.nextId ts w :=
  run_induct (P := Inv config user (.load web config) office.registry.nextId)
    ⟨sound_opening office requests, ⟨by simp [opening], by simp [opening]⟩,
      kept_opening hid office requests⟩
    (fun _ _ _ _ hinv ht => hinv.next ht) h

/-- Nobody is refused unless one of the two has a profile. -/
theorem Inv.answered (h : Inv config user s₀ start ts w) (happlicant : (s₀.held .applicant).isSome)
    (hcost : config.cost.check = .ok ())
    (answered : w.crowd.Answered (.derive s₀.id s₀.nonce user)) {t : Turn}
    (ht : Tabs.next config w t = some w') : w'.crowd.Answered (.derive s₀.id s₀.nonce user) := by
  cases leads_of_next ht with
  | @load i => exact answered.same rfl rfl (answered.refused i) fun _ => id
  | @store i =>
    change (w.crowd.put i _).Answered _
    rw [Crowd.put_same]
    exact answered
  | @step i =>
    have hi := h.sound.seated i
    change (w.crowd.put i _).Answered _
    cases hi.course with
    | early ready fits => exact answered.effect (fits.step ready rfl _).2
    | barred hb =>
      obtain ⟨e, he⟩ := hb.step w.crowd.office
      rw [he]
      refine answered.same rfl hb.committed?.symm (fun _ _ => ?_) fun _ => id
      cases hb with
      | refused hr => exact answered.refused i _ hr
      | waiting hw fails =>
        -- without a profile in its copy, the client could have been given one
        by_contra hnone
        have hid := (h.kept.blank fun j hj => hnone ⟨j, hj⟩).2 i
        obtain ⟨e, he⟩ := fails w.crowd.office
        obtain ⟨fault, hf, -⟩ := prepare_error_of_ready hid (by rwa [hi.kin.applicant])
          (by rwa [hi.under]) he
        exact answered.quiet fault (injects_of_openEnrollment hf)

end

/-! ## A request that is alone -/

section
variable {config : Config} {w : Tabs}

/-- The turns of a request with nobody in between. -/
def alone (i : Fin 2) : List Turn :=
  .load i :: (List.replicate 6 (.step i) ++ [.store i])

/-- A request comes to its end by its steps, and no other client is changed by them. -/
theorem exists_run_steps {i : Fin 2} (hi : w.stage i = .loaded)
    (hw : (w.crowd.clients i).progress = .waiting) :
    ∃ x : Office × Client, x.2.progress.result?.isSome ∧
      run config w (List.replicate 6 (.step i)) = some { w with crowd := w.crowd.put i x } := by
  have all (n : Nat) (w : Tabs) (hi : w.stage i = .loaded) :
      run config w (List.replicate n (.step i)) = some { w with
        crowd := w.crowd.put i (Client.steps n (w.crowd.office, w.crowd.clients i)) } := by
    induction n generalizing w with
    | zero =>
      rw [Client.steps, Crowd.put_same]
      rfl
    | succ n ih =>
      let stepped : Tabs :=
        { w with crowd := w.crowd.put i ((w.crowd.clients i).step w.crowd.office) }
      have hnext : next config w (.step i) = some stepped := by
        rw [next, if_pos hi, advance, seat, ← hi, Function.update_eq_self]
      rw [List.replicate_succ, run_cons_of_next hnext, ih stepped hi]
      simp only [stepped, Crowd.put_put, Crowd.clients_put_self]
      rfl
  refine ⟨_, ?_, all 6 w hi⟩
  rw [(Client.alone w.crowd.office hw).1]
  rfl

/-- A request that has its copy comes to its end and stores it. -/
theorem exists_run_store (config : Config) {i : Fin 2} (hi : w.stage i = .loaded)
    (hw : (w.crowd.clients i).progress = .waiting) :
    ∃ w', run config w (List.replicate 6 (.step i) ++ [.store i]) = some w' ∧
      w'.stage = Function.update w.stage i .stored ∧
      ∀ j, j ≠ i → w'.crowd.clients j = w.crowd.clients j := by
  obtain ⟨x, hx, hsteps⟩ := exists_run_steps hi hw
  let ended : Tabs := { w with crowd := w.crowd.put i x }
  have hx' : (ended.crowd.clients i).progress.result?.isSome := by
    rw [Crowd.clients_put_self]
    exact hx
  have hnext : next config ended (.store i) = some
      { ended.seat i .stored (ended.crowd.office, ended.crowd.clients i) with
        web := (ended.crowd.clients i).session.store w.web } := if_pos ⟨hi, hx'⟩
  refine ⟨_, by rw [run_append, hsteps]; exact run_cons_of_next hnext [], rfl, fun j hj => ?_⟩
  exact (Crowd.clients_put_of_ne _ hj _).trans (Crowd.clients_put_of_ne _ hj _)

/-- A request that is alone comes to its end, and leaves the copy of the other one as it is. -/
theorem exists_run_alone (config : Config) {i : Fin 2} (hi : w.stage i = .ahead)
    (hw : (w.crowd.clients i).progress = .waiting) :
    ∃ w', run config w (alone i) = some w' ∧ w'.stage = Function.update w.stage i .stored ∧
      ∀ j, j ≠ i → w'.crowd.clients j = w.crowd.clients j := by
  let loaded := w.seat i .loaded
    (w.crowd.office, { w.crowd.clients i with session := .load w.web config })
  have hnext : next config w (.load i) = some loaded := next_load hi config
  obtain ⟨w', hrun, hstage, hothers⟩ := exists_run_store config (w := loaded) (i := i)
    stage_seat_self (by rw [clients_seat_self]; exact hw)
  refine ⟨w', ?_, ?_, fun j hj => (hothers j hj).trans (clients_seat_of_ne hj)⟩
  · rw [alone, run_cons_of_next hnext, hrun]
  · rw [hstage]
    exact Function.update_idem ..

end

/-! ## What is left in the end -/

/-- What has become of two requests of one web session for profiles. -/
structure Finalized (config : Config) (user : UserId) (s₀ : Session) (office : Office)
    (ts : List Turn) (w : Tabs) : Prop where
  once : ∀ i j, w.crowd.Committed i → w.crowd.Committed j → i = j
  /-- The profile that is committed is recorded, unless the other request has stored later what it
      had loaded before. -/
  kept : ∀ i j p, j ≠ i → (w.crowd.clients i).progress.committed? = some p →
    p.withoutKey ∈ w.crowd.office.registry.rows ∧
      (Session.load w.web config).profileId =
        if [.load j, .store i, .store j].Sublist ts then none else some p.id
  blank : (∀ i, ¬ w.crowd.Committed i) → (Session.load w.web config).profileId = none
  /-- One of them has its profile, if there is an applicant and nothing fails. -/
  served : (s₀.held .applicant).isSome → config.cost.check = .ok () →
    (∀ fault, ¬ Injects office fault) →
    (∀ p ∈ office.registry.rows, p.key ≠ .derive s₀.id s₀.nonce user) →
    ∃ i, w.crowd.Committed i

section
variable {config : Config} {user : UserId} {web : WebSession} {office : Office}
  {requests : Fin 2 → Request} {w : Tabs} {ts : List Turn}

/-- Without failures, whoever comes to an end leaves a profile. -/
theorem committed_of_result (hid : (Session.load web config).profileId = none)
    (applicant : ((Session.load web config).held .applicant).isSome)
    (cost : config.cost.check = .ok ()) (quiet : ∀ fault, ¬ Injects office fault)
    (free : ∀ p ∈ office.registry.rows, p.key ≠
      .derive (Session.load web config).id (Session.load web config).nonce user)
    (h : run config (opening config user web office requests) ts = some w) {i : Fin 2}
    (hr : (w.crowd.clients i).progress.result?.isSome) : ∃ j, w.crowd.Committed j := by
  have hopening : Inv config user (.load web config) office.registry.nextId []
      (opening config user web office requests) := inv_run hid rfl
  generalize Session.load web config = s₀ at *
  have answered : Inv config user s₀ office.registry.nextId ts w ∧
      w.crowd.Answered (.derive s₀.id s₀.nonce user) :=
    run_induct (P := fun ts w => Inv config user s₀ office.registry.nextId ts w ∧
      w.crowd.Answered (.derive s₀.id s₀.nonce user))
      ⟨hopening, fun p hp hk => absurd hk (free p hp), fun _ _ => nofun, quiet⟩
      (fun _ _ _ _ hinv ht => ⟨hinv.1.next ht, hinv.1.answered applicant cost hinv.2 ht⟩) h
  obtain ⟨result, hresult⟩ := Option.isSome_iff_exists.1 hr
  by_contra hnone
  have hi : (w.crowd.clients i).progress.committed? = none := by
    rw [← Option.isNone_iff_eq_none, ← Option.isSome_eq_false_iff, ← Bool.not_eq_true]
    exact fun hi => hnone ⟨i, hi⟩
  obtain ⟨e, he, -⟩ := Progress.refused_of_result hresult hi
  exact hnone (answered.2.refused i e he)

/-- **The profile that is committed is recorded in the web session**, in whatever order two requests
    load it, take their steps and store their copies, unless an older copy is stored later. -/
theorem finalized_run (hid : (Session.load web config).profileId = none)
    (h : run config (opening config user web office requests) ts = some w)
    (stored : ∀ i, w.stage i = .stored) :
    Finalized config user (.load web config) office ts w := by
  have hinv := inv_run hid h
  constructor
  case once => exact hinv.sound.shared.single
  case kept =>
    intro i j p hji hp
    refine ⟨(hinv.sound.shared.committed i p hp).2, ?_⟩
    rw [hinv.kept.page i j p hji hp, left]
    simp only [(hinv.taken.stored i).2 (stored i), true_and, ite_not]
  case blank => exact fun hnone => (hinv.kept.blank hnone).1
  case served =>
    exact fun applicant cost quiet free =>
      committed_of_result hid applicant cost quiet free h ((hinv.sound.seated 0).stored (stored 0))

end

open Registry.Traffic (zeroUser)

/-- A web session with an applicant. -/
def firstPage : WebSession :=
  firstDesk.session.store ⟨⟨"web"⟩, []⟩

/-- Two requests at services that have done nothing yet. -/
def firstTabs : Tabs :=
  opening .light zeroUser firstPage firstDesk.office fun _ =>
    ⟨.light, ⟨"secret"⟩, zeroUser, none, zeroDraw⟩

theorem load_firstPage :
    (Session.load firstPage .light).profileId = none ∧
      ((Session.load firstPage .light).held .applicant).isSome := by
  have under : firstDesk.session.Under .light := ⟨rfl, rfl, rfl⟩
  rw [firstPage, Session.load_store_eq under]
  exact ⟨rfl, rfl⟩

theorem not_injects_firstDesk (fault : StoreFault) : ¬ Injects firstDesk.office fault :=
  fun ⟨f, _, hf⟩ => not_isOn_firstDesk f hf

theorem finalized_run_one_by_one :
    (Session.load firstPage .light).profileId = none ∧
      ∃ w, run .light firstTabs (alone 0 ++ alone 1) = some w ∧ (∀ i, w.stage i = .stored) ∧
        Finalized .light zeroUser (.load firstPage .light) firstDesk.office (alone 0 ++ alone 1) w ∧
        ∃ i p, (w.crowd.clients i).progress.committed? = some p ∧
          (Session.load w.web .light).profileId = some p.id := by
  obtain ⟨hid, applicant⟩ := load_firstPage
  obtain ⟨w₁, hrun₁, hstage₁, hothers⟩ := exists_run_alone .light (w := firstTabs)
    (i := 0) rfl rfl
  obtain ⟨w, hrun, hstage, -⟩ := exists_run_alone .light (w := w₁) (i := 1)
    (by rw [hstage₁]; rfl) (by rw [hothers 1 (by decide)]; rfl)
  have h : run .light firstTabs (alone 0 ++ alone 1) = some w := by
    rw [run_append, hrun₁]
    exact hrun
  have stored (i : Fin 2) : w.stage i = .stored := by
    rw [hstage, hstage₁]
    revert i
    decide
  have finalized := finalized_run hid h stored
  obtain ⟨i, hi⟩ := finalized.served applicant rfl not_injects_firstDesk
    (fun _ hp => absurd hp List.not_mem_nil)
  obtain ⟨p, hp⟩ := Option.isSome_iff_exists.1 hi
  -- the second copy is loaded after the first is stored
  have order (i j : Fin 2) (hji : j ≠ i) :
      ¬ [.load j, .store i, .store j].Sublist (alone 0 ++ alone 1) := by
    revert i j
    decide
  obtain ⟨j, hji⟩ := exists_ne i
  exact ⟨hid, w, h, stored, finalized, i, p, hp,
    (finalized.kept i j p hji hp).2.trans (if_neg (order i j hji))⟩

/-- The first request is alone while the second has its copy. -/
def late : List Turn :=
  .load 1 :: (alone 0 ++ (List.replicate 6 (.step 1) ++ [.store 1]))

/-- The profile of the first request is lost to the web session where the second one stores an
    older copy later. -/
theorem exists_lost_profileId :
    (Session.load firstPage .light).profileId = none ∧
      ((Session.load firstPage .light).held .applicant).isSome ∧
      (∀ f, ¬ IsOn firstDesk.office f) ∧
      ∃ w p, run .light firstTabs late = some w ∧ (∀ i, w.stage i = .stored) ∧
        (w.crowd.clients 0).progress.committed? = some p ∧ ¬ w.crowd.Committed 1 ∧
        p.withoutKey ∈ w.crowd.office.registry.rows ∧
        (Session.load w.web .light).profileId = none := by
  obtain ⟨hid, applicant⟩ := load_firstPage
  let loaded : Tabs := firstTabs.seat 1 .loaded (firstDesk.office,
    { firstTabs.crowd.clients 1 with session := .load firstPage .light })
  have hnext : next .light firstTabs (.load 1) = some loaded := next_load rfl .light
  obtain ⟨w₁, hrun₁, hstage₁, hothers₁⟩ := exists_run_alone .light (w := loaded) (i := 0)
    rfl rfl
  have hwaits : (w₁.crowd.clients 1).progress = .waiting := by
    rw [hothers₁ 1 (by decide)]
    rfl
  obtain ⟨w, hrun, hstage, hothers⟩ := exists_run_store .light (w := w₁) (i := 1)
    (by rw [hstage₁]; rfl) hwaits
  have h₁ : run .light firstTabs (.load 1 :: alone 0) = some w₁ := by
    rw [run_cons_of_next hnext, hrun₁]
  have h : run .light firstTabs late = some w := by
    rw [late, run_cons_of_next hnext, run_append, hrun₁]
    exact hrun
  -- the first request has the profile, since the second one has done nothing with its copy
  have hresult : (w₁.crowd.clients 0).progress.result?.isSome :=
    ((inv_run hid h₁).sound.seated 0).stored (by rw [hstage₁]; rfl)
  obtain ⟨i, hi⟩ := committed_of_result hid applicant rfl not_injects_firstDesk
    (fun _ hp => absurd hp List.not_mem_nil) h₁ hresult
  obtain rfl : i = 0 := by
    by_contra hne
    obtain rfl : i = 1 := by omega
    rw [Crowd.Committed, hwaits] at hi
    cases hi
  obtain ⟨p, hp⟩ := Option.isSome_iff_exists.1 hi
  rw [← hothers 0 (by decide)] at hp
  have hinv := inv_run hid h
  refine ⟨hid, applicant, not_isOn_firstDesk, w, p, h, fun i => ?_, hp, fun h₂ => ?_,
    (hinv.sound.shared.committed 0 p hp).2, ?_⟩
  · rw [hstage, hstage₁]
    revert i
    decide
  · cases hinv.sound.shared.single 0 1 (Option.isSome_iff_exists.2 ⟨p, hp⟩) h₂
  · rw [hinv.kept.page 0 1 p (by decide) hp]
    exact if_neg (by decide)

end Tabs

end Proofing.Completion
