import Mathlib.Data.List.Nodup
import Proofing.Proofs.Completion.Success
/-
  Proofing — the events account for what is done to the services.

  * `Tells` says which change to the services an event comes with, and a `History`
    is a run of such changes, and of those that no event is about;
  * `Told` says of a step behind the commit that its events tell all it does;
    `entry_complete` says so of making a profile, with the commit in it;
  * `Tally` is what a history leaves behind in services that had done nothing yet.

  `balanced_run` is about every run of errands through one desk.
-/
namespace Proofing

namespace Event

/-- The profile that was created, its user, and what holds it back. -/
def created? : Event → Option (ProfileId × UserId × List Hold)
  | profileCreated id user holds => some (id, user, holds)
  | _ => none

/-- The profile that was activated. -/
def activated? : Event → Option ProfileId
  | profileActivated id => some id
  | _ => none

/-- The profile that an enrollment was linked to. -/
def linked? : Event → Option ProfileId
  | enrollmentLinked id _ => some id
  | _ => none

/-- The profile whose data was taken into the vault. -/
def relocated? : Event → Option ProfileId
  | piiRelocated id => some id
  | _ => none

/-- The profile that a letter was sent for. -/
def letter? : Event → Option ProfileId
  | letterRequested id => some id
  | _ => none

/-- The profile that a visit was scheduled for. -/
def visit? : Event → Option ProfileId
  | visitScheduled id => some id
  | _ => none

/-- The event belongs to the making of a profile, and comes once at most. -/
def isMilestone : Event → Bool
  | profileCreated .. | profileActivated _ | enrollmentLinked .. => true
  | _ => false

section
variable (e : Event) (h : e.isMilestone = false)
include h

theorem created?_eq_none : e.created? = none := by
  cases e <;> first | rfl | cases h

theorem activated?_eq_none : e.activated? = none := by
  cases e <;> first | rfl | cases h

theorem linked?_eq_none : e.linked? = none := by
  cases e <;> first | rfl | cases h

end

end Event

/-- What is told of a row when it is written. -/
def Profile.announced (p : Profile) : ProfileId × UserId × List Hold :=
  (p.id, p.user, p.holds)

/-- Queues an event. -/
def Office.queue (o : Office) (e : Event) : Office :=
  { o with events := o.events ++ [e] }

@[simp] theorem Office.queue_registry (o : Office) (e : Event) :
    (o.queue e).registry = o.registry := rfl

@[simp] theorem Office.queue_vault (o : Office) (e : Event) : (o.queue e).vault = o.vault := rfl

@[simp] theorem Office.queue_mailroom (o : Office) (e : Event) :
    (o.queue e).mailroom = o.mailroom := rfl

@[simp] theorem Office.queue_enrollments (o : Office) (e : Event) :
    (o.queue e).enrollments = o.enrollments := rfl

namespace Completion

/-! ## Histories -/

/-- Something that is done to the services by others. -/
inductive Outside where
  | fail (f : Failure) (on : Bool)
  /-- An enrollment is opened. -/
  | enroll (user : UserId)
  | keep (user : UserId) (token : CacheToken) (profile : ProfileId) (pii : Pii)
  | evict (user : UserId)
  | setClock (now : Timestamp)

/-- The services after it. -/
def Outside.apply (o : Office) : Outside → Office
  | fail f on => o.setFailing f on
  | enroll user => { o with enrollments := (o.enrollments.establish user).2 }
  | keep user token profile pii => { o with vault := o.vault.keep user token profile pii }
  | evict user => { o with vault := o.vault.evict user }
  | setClock now => { o with registry := { o.registry with now } }

/-- The change to the services that an event tells of. -/
inductive Tells : Office → Event → Office → Prop
  | created {o : Office} {p : Profile} (id : p.id = ⟨o.registry.nextId⟩)
      (new : ∀ q ∈ o.registry.rows, q.key ≠ p.key) :
      Tells o (.profileCreated p.id p.user p.holds)
        { o with registry := { o.registry with
            rows := Registry.place p o.registry.rows
            nextId := o.registry.nextId + 1 } }
  /-- A profile is written as an active one; this comes after it. -/
  | activated {o : Office} {p : Profile} (row : p ∈ o.registry.rows) (active : p.active = true) :
      Tells o (.profileActivated p.id) o
  | relocated {o : Office} {user : UserId} {id : ProfileId} {t : StagedText} {v : Vault}
      (written : o.vault.persist user id t = .ok v) :
      Tells o (.piiRelocated id) { o with vault := v }
  | linked {o : Office} {e : Enrollment} {id : ProfileId} {es : Enrollments}
      (done : linked o e id = .ok es) :
      Tells o (.enrollmentLinked id e.id) { o with enrollments := es }
  | letter {o : Office} {id : ProfileId} {provider : Option ServiceProvider} {code : LetterCode}
      {m : Mailroom} (sent : o.mailroom.send provider id = .ok (code, m)) :
      Tells o (.letterRequested id) { o with mailroom := m }
  | visit {o : Office} {user : UserId} {id : ProfileId} {es : Enrollments}
      (scheduled : o.enrollments.schedule user = .ok es) :
      Tells o (.visitScheduled id) { o with enrollments := es }

/-- What was done to the services, with the events that tell of it and how many numbers of the
    registry were given out for nothing. -/
inductive History : Nat → List Event → Office → Office → Prop
  | refl (o : Office) : History 0 [] o o
  | tell {lost : Nat} {es : List Event} {e : Event} {o o₁ o₂ : Office}
      (before : History lost es o o₁)
      (done : Tells o₁ e o₂) : History lost (es ++ [e]) o (o₂.queue e)
  /-- A profile is created, but not committed. -/
  | lose {lost : Nat} {es : List Event} {o o₁ : Office} (before : History lost es o o₁) :
      History (lost + 1) es o
        { o₁ with registry := { o₁.registry with nextId := o₁.registry.nextId + 1 } }
  | drain {lost : Nat} {es : List Event} {o o₁ : Office} (before : History lost es o o₁) :
      History lost es o o₁.drain.2
  | outside {lost : Nat} {es : List Event} {o o₁ : Office} (before : History lost es o o₁)
      (x : Outside) : History lost es o (x.apply o₁)

theorem History.trans {lost lost' : Nat} {es es' : List Event} {o o₁ o₂ : Office}
    (h : History lost es o o₁) (h' : History lost' es' o₁ o₂) :
    History (lost + lost') (es ++ es') o o₂ := by
  induction h' with
  | refl => rwa [List.append_nil]
  | tell _ done ih => rw [← List.append_assoc]; exact (ih h).tell done
  | lose _ ih => exact (ih h).lose
  | drain _ ih => exact (ih h).drain
  | outside _ x ih => exact (ih h).outside x

/-! ## Steps -/

/-- What is done in one go, and the events that are queued for it. -/
structure Entry (lost : Nat) (es : List Event) (o o' : Office) : Prop where
  queued : o'.events = o.events ++ es
  history : History lost es o o'

theorem Entry.refl (o : Office) : Entry 0 [] o o :=
  ⟨(List.append_nil _).symm, .refl o⟩

theorem Entry.trans {lost lost' : Nat} {es es' : List Event} {o o₁ o₂ : Office}
    (h : Entry lost es o o₁) (h' : Entry lost' es' o₁ o₂) :
    Entry (lost + lost') (es ++ es') o o₂ :=
  ⟨by rw [h'.queued, h.queued, List.append_assoc], h.history.trans h'.history⟩

theorem entry_of_tells {e : Event} {o o' : Office} (h : Tells o e o')
    (quiet : o'.events = o.events) :
    Entry 0 [e] o (o'.queue e) :=
  ⟨by rw [Office.queue, quiet], (History.refl o).tell h⟩

/-- All that the step does is told, whether it succeeds or fails, and there are no milestones but
    these. -/
def Told {α : Type} (x : Step α) (milestones : List Event) (d : Desk) : Prop :=
  ∃ es, Entry 0 es d.office (x.perform d).2.office ∧
    (es.filter Event.isMilestone).Sublist milestones

section
variable {α β : Type} {x : Step α} {ms ms' : List Event} {d d' : Desk} {user : UserId}
  {provider : Option ServiceProvider} {profile : ProfileId}

theorem Told.of_perform {r : Except FlowError α} (h : x.perform d = (r, d')) {es : List Event}
    (he : Entry 0 es d.office d'.office) (hm : (es.filter Event.isMilestone).Sublist ms) :
    Told x ms d :=
  ⟨es, by rwa [h], hm⟩

/-- A step that leaves the services alone has nothing to tell. -/
theorem Told.of_same {r : Except FlowError α} (h : x.perform d = (r, d'))
    (same : d'.office = d.office) : Told x [] d :=
  .of_perform h (by rw [same]; exact .refl d.office) (.refl _)

theorem told_pure (a : α) (d : Desk) : Told (pure a : Step α) [] d :=
  .of_same rfl rfl

theorem told_lift {ε : Type} (wrap : ε → FlowError) (r : Except ε α) (d : Desk) :
    Told (Step.lift wrap r) [] d := by
  cases r with
  | error e => exact .of_same (Step.perform_lift_error wrap e d) rfl
  | ok a => exact .of_same (Step.perform_lift_ok wrap a d) rfl

theorem Told.bind {f : α → Step β} (hx : Told x ms d)
    (hf : ∀ a d', x.perform d = (.ok a, d') → Told (f a) ms' d') :
    Told (x >>= f) (ms ++ ms') d := by
  obtain ⟨es, he, hm⟩ := hx
  rcases hp : x.perform d with ⟨e | a, d'⟩ <;> rw [hp] at he
  · exact .of_perform (Step.perform_bind_error hp f) he
      (hm.trans (List.sublist_append_left ms ms'))
  · obtain ⟨es', he', hm'⟩ := hf a d' hp
    refine ⟨es ++ es', ?_, ?_⟩
    · rw [Step.perform_bind_ok hp]
      exact he.trans he'
    · rw [List.filter_append]
      exact hm.append hm'

/-- Taking staged data in is a write to the vault, or nothing. -/
theorem relocate_cases {v v' : Vault} {s s' : Session} {moved : Bool}
    (h : v.relocate s user = .ok (moved, s', v')) :
    (moved = true ∧ ∃ id t, s'.profileId = some id ∧ v.persist user id t = .ok v') ∨
      (moved = false ∧ v' = v) := by
  unfold Vault.relocate at h
  split at h
  · split at h
    · rename_i id t hid ht
      cases hv : v.persist user id t with
      | error e => rw [hv] at h; cases h
      | ok w => rw [hv] at h; cases h; exact .inl ⟨rfl, id, t, hid, hv⟩
    · cases h; exact .inr ⟨rfl, rfl⟩
  · cases h; exact .inr ⟨rfl, rfl⟩

theorem told_relocate : Told (relocate user) [] d := by
  cases h : d.office.vault.relocate d.session user with
  | error e => exact .of_same (perform_relocate_error h) rfl
  | ok r =>
    obtain ⟨moved, s, v⟩ := r
    have hp := perform_relocate_ok h
    rcases relocate_cases h with ⟨rfl, id, t, hid, hwritten⟩ | ⟨rfl, rfl⟩
    · rw [hid] at hp
      exact .of_perform hp (entry_of_tells (.relocated hwritten) rfl) (.refl _)
    · exact .of_perform hp ⟨rfl, by simpa using History.refl d.office⟩ (.refl _)

theorem told_sendLetter : Told (sendLetter user profile provider) [] d := by
  cases hp : resolvePii d.office d.session user with
  | error e =>
    have h : (sendLetter user profile provider).perform d = (.error e, d) := by
      simp [sendLetter, Step.perform_bind, hp]
    exact .of_same h rfl
  | ok pii =>
    cases h : d.office.mailroom.send provider profile with
    | error e => exact .of_same (perform_sendLetter_error hp h) rfl
    | ok r =>
      exact .of_perform (perform_sendLetter_ok hp h) (entry_of_tells (.letter h) rfl) (.refl _)

theorem told_schedule : Told (schedule user profile) [] d := by
  cases hp : resolvePii d.office d.session user with
  | error e =>
    have h : (schedule user profile).perform d = (.error e, d) := by
      simp [schedule, Step.perform_bind, hp]
    exact .of_same h rfl
  | ok pii =>
    cases h : d.office.enrollments.schedule user with
    | error e => exact .of_same (perform_schedule_error hp h) rfl
    | ok es =>
      exact .of_perform (perform_schedule_ok hp h) (entry_of_tells (.visit h) rfl) (.refl _)

theorem told_link {enrollment : Enrollment} :
    Told (link enrollment profile) [.enrollmentLinked profile enrollment.id] d := by
  cases h : linked d.office enrollment profile with
  | error e => exact .of_perform (perform_link_error h) (.refl _) (List.nil_sublist _)
  | ok es => exact .of_perform (perform_link_ok h) (entry_of_tells (.linked h) rfl) (.refl _)

theorem told_requestLetter : Told (requestLetter user provider) [] d :=
  (Told.of_same (Step.perform_office d) rfl).bind fun _ d' _ =>
    (Told.of_same (Step.perform_session d') rfl).bind fun _ d'' _ =>
      (told_lift id _ d'').bind fun _ _ _ => told_sendLetter

theorem told_scheduleVisit : Told (scheduleVisit user) [] d := by
  refine (Told.of_same (Step.perform_session d) rfl).bind fun s d' _ => ?_
  split
  · exact told_schedule
  · exact .of_same (Step.perform_throw _ d') rfl

theorem told_approach {password : Password} {p : Prepared} {q : Profile} :
    Told (approach password p q)
      (p.enrollment.map fun e => Event.enrollmentLinked q.id e.id).toList d := by
  refine (Told.of_same (Step.perform_office d) rfl).bind fun o d₁ _ => ?_
  refine (told_lift _ _ d₁).bind fun staged d₂ _ => ?_
  refine (Told.of_same (Step.perform_session d₂) rfl).bind fun s d₃ _ => ?_
  have hset : Told (Step.setSession (s.stage staged)) [] d₃ :=
    .of_same (Step.perform_setSession _ d₃) rfl
  refine hset.bind fun _ d₄ _ => ?_
  cases p.enrollment with
  | none => exact told_pure _ d₄
  | some enrollment => exact told_link

/-- That a profile is active is told once it is. -/
theorem told_follow (enrollment : Option Enrollment) {activation : Activation}
    (active : activation = .activated →
      ∃ q ∈ d.office.registry.rows, q.id = profile ∧ q.active = true) :
    Told (follow user provider enrollment profile activation) [.profileActivated profile] d := by
  cases activation with
  | activated =>
    obtain ⟨q, hq, rfl, hactive⟩ := active rfl
    have hemit : Told (Step.emit (.profileActivated q.id)) [.profileActivated q.id] d :=
      .of_perform (Step.perform_emit _ d) (entry_of_tells (.activated hq hactive) rfl) (.refl _)
    exact hemit.bind fun _ _ _ => told_relocate.bind fun _ _ _ => told_pure _ _
  | blocked hold =>
    suffices h : Told (follow user provider enrollment profile (.blocked hold)) [] d by
      obtain ⟨es, he, hm⟩ := h
      exact ⟨es, he, hm.trans (List.nil_sublist _)⟩
    refine (Told.of_same (Step.perform_session d) rfl).bind fun s d' _ => ?_
    split
    · exact told_relocate.bind fun _ _ _ => told_sendLetter.bind fun _ _ _ => told_pure _ _
    · split
      · exact told_schedule.bind fun _ _ _ => told_pure _ _
      · exact told_pure _ d'

end

/-! ## Making a profile -/

section
variable {config : Config} {password : Password} {user : UserId} {provider : Option ServiceProvider}
  {draw : Draft.Draw} {d : Desk} {p : Prepared} {r : Registry} {profile : Profile}
  {activation : Activation}

/-- The commit, and the event that comes with it. -/
theorem entry_noted (h : persist d.office p.draft = (.ok (profile, activation), r)) :
    Entry 0 [.profileCreated profile.id profile.user profile.holds] d.office
      (noted { d with office := { d.office with registry := r } } profile p.applicant).office := by
  obtain ⟨hfree, hup, rfl⟩ := persist_ok h
  have hid : profile.id = ⟨d.office.registry.nextId⟩ := Profile.id_of_lasting (lasting_of_persist h)
  have hkey : profile.key = p.draft.key := Profile.key_of_lasting (lasting_of_persist h)
  have htells : Tells d.office _ _ :=
    .created (p := profile.withoutKey) hid fun q hq => hkey ▸ hfree q hq
  exact entry_of_tells htells rfl

/-- What happens behind the commit is told, too. -/
theorem told_settle (h : persist d.office p.draft = (.ok (profile, activation), r)) {n : Desk}
    (hn : n.office.registry = r) :
    Told (approach password p profile >>= fun _ => depart user provider p profile activation)
      ((p.enrollment.map fun e => Event.enrollmentLinked profile.id e.id).toList ++
        [.profileActivated profile.id]) n := by
  refine told_approach.bind fun _ n' hp => ?_
  have hregistry : n'.office.registry = r := (settles_approach.behind_of hp).registry.trans hn
  have hfollow : Told (follow user provider p.enrollment profile.id activation)
      [.profileActivated profile.id] n' := by
    refine told_follow p.enrollment fun activated => ?_
    obtain ⟨-, hup, hr⟩ := persist_ok h
    refine ⟨profile.withoutKey, ?_, rfl, ?_⟩
    · rw [hregistry, hr]
      exact Registry.mem_place_self _ _
    · rcases upcoming_cases hup with ⟨-, -, hactive⟩ | ⟨_, -, hblocked, -⟩
      · exact hactive
      · rw [activated] at hblocked; cases hblocked
  exact hfollow.bind fun _ _ _ => told_pure _ _

end

/-- Events that belong to the making of a profile are found among the milestones. -/
theorem filterMap_sublist {α : Type} {f : Event → Option α} {es ms : List Event}
    (hf : ∀ e, e.isMilestone = false → f e = none)
    (h : (es.filter Event.isMilestone).Sublist ms) : (es.filterMap f).Sublist (ms.filterMap f) := by
  have hes : (es.filter Event.isMilestone).filterMap f = es.filterMap f := by
    rw [List.filterMap_filter]
    refine List.filterMap_congr fun e _ => ?_
    cases he : e.isMilestone with
    | true => rfl
    | false => exact (hf e he).symm
  exact hes ▸ h.filterMap f

/-- Of a profile it is told once at most that it is active, and once at most that an enrollment was
    linked to it, and only if it was created. -/
structure OnceEach (es : List Event) : Prop where
  activated : (es.filterMap Event.activated?).Sublist ((es.filterMap Event.created?).map (·.1))
  linked : (es.filterMap Event.linked?).Sublist ((es.filterMap Event.created?).map (·.1))

theorem OnceEach.append {es es' : List Event} (h : OnceEach es) (h' : OnceEach es') :
    OnceEach (es ++ es') := by
  constructor <;> rw [List.filterMap_append, List.filterMap_append, List.map_append]
  exacts [h.activated.append h'.activated, h.linked.append h'.linked]

/-- So it is when one profile is made. -/
theorem onceEach_made {id : ProfileId} {user : UserId} {holds : List Hold}
    {enrollment : Option Enrollment} {es : List Event}
    (h : (es.filter Event.isMilestone).Sublist
      ((enrollment.map fun e => Event.enrollmentLinked id e.id).toList ++ [.profileActivated id])) :
    es.filterMap Event.created? = [] ∧ OnceEach (.profileCreated id user holds :: es) := by
  have hc : es.filterMap Event.created? = [] := by
    have hsub := filterMap_sublist Event.created?_eq_none h
    cases enrollment <;> exact List.sublist_nil.1 hsub
  have ha : (es.filterMap Event.activated?).Sublist [id] := by
    have hsub := filterMap_sublist Event.activated?_eq_none h
    cases enrollment <;> exact hsub
  have hl : (es.filterMap Event.linked?).Sublist [id] := by
    have hsub := filterMap_sublist Event.linked?_eq_none h
    cases enrollment with
    | none => exact hsub.trans (List.nil_sublist _)
    | some e => exact hsub
  have hids : ((Event.profileCreated id user holds :: es).filterMap Event.created?).map (·.1) =
      [id] := by
    rw [List.filterMap_cons_some (by rfl), hc]
    rfl
  exact ⟨hc, hids ▸ ha, hids ▸ hl⟩

/-- How many numbers of the registry were given out. -/
def given (lost : Nat) (es : List Event) : Nat :=
  lost + (es.filterMap Event.created?).length

/-- Everything that is done to make a profile is told. No more than one number is given out. -/
theorem entry_complete (config : Config) (password : Password) (user : UserId)
    (provider : Option ServiceProvider) (draw : Draft.Draw) (d : Desk) :
    ∃ lost es, Entry lost es d.office
        ((complete config password user provider draw).perform d).2.office ∧
      given lost es ≤ 1 ∧ OnceEach es := by
  cases hp : prepare config d.session d.office password user provider draw with
  | error e =>
    rw [complete_of_prepare_error hp]
    exact ⟨0, [], .refl _, Nat.zero_le _, .refl _, .refl _⟩
  | ok p =>
    rcases h : persist d.office p.draft with ⟨e | ⟨profile, activation⟩, r⟩
    · rw [complete_of_persist_error hp h]
      obtain ⟨n, rfl | rfl, rfl⟩ := persist_error h
      · exact ⟨0, [], .refl _, Nat.zero_le _, .refl _, .refl _⟩
      · exact ⟨1, [], ⟨(List.append_nil _).symm, (History.refl d.office).lose⟩, Nat.le_refl _,
          .refl _, .refl _⟩
    · have hid : ({ d with office := { d.office with registry := r } } : Desk).session.profileId =
        none := (prepare_ok_iff.1 hp).1
      obtain ⟨es, he, hm⟩ := @told_settle password user provider d p r profile activation h
        (noted { d with office := { d.office with registry := r } } profile p.applicant) rfl
      obtain ⟨hc, honce⟩ := @onceEach_made profile.id profile.user profile.holds _ es hm
      rw [complete_of_persist_ok hp h,
        settle_eq_depart hid password user provider p profile activation]
      refine ⟨0, _, (entry_noted h).trans he, ?_, honce⟩
      rw [given, List.filterMap_append, hc]
      exact Nat.le_refl 1

end Completion

/-! ## What histories leave behind -/

theorem Registry.place_of_lt {p : Profile} {rows : List Profile}
    (h : ∀ q ∈ rows, q.id.number < p.id.number) : place p rows = rows ++ [p] := by
  induction rows with
  | nil => rfl
  | cons q rows ih =>
    obtain ⟨hq, hrows⟩ := List.forall_mem_cons.1 h
    have hne : q.id ≠ p.id := fun e => UInt64.lt_irrefl _ (e ▸ hq)
    rw [place, if_neg hne, if_neg (UInt64.lt_asymm hq), ih hrows, List.cons_append]

/-- Letters are numbered from one, in the order in which they are sent. -/
structure Mailroom.Numbered (m : Mailroom) : Prop where
  next : m.nextNumber = .ofNat (m.letters.length + 1)
  codes : m.letters.map (·.code) =
    (List.range m.letters.length).map fun k => .ofNumber (UInt64.ofNat (k + 1)).toNat

theorem Mailroom.Numbered.send {m m' : Mailroom} {provider : Option ServiceProvider} {id : ProfileId}
    {code : LetterCode} (h : m.Numbered) (sent : m.send provider id = .ok (code, m')) :
    m'.Numbered := by
  unfold Mailroom.send at sent
  split at sent <;> cases sent
  constructor
  · simp only [List.length_append, List.length_singleton]
    rw [h.next, UInt64.ofNat_add (m.letters.length + 1)]
    rfl
  · simp only [List.map_append, List.length_append, List.length_singleton, List.range_succ, h.codes,
      h.next, List.map_cons, List.map_nil]

namespace Completion

/-- The rows are those that were told of, in this order, and active where that was told. -/
structure Listed (n : Nat) (es : List Event) (rows : List Profile) : Prop where
  ordered : Registry.Ordered rows
  numbers : ∀ p ∈ rows, p.id.number.toNat ≤ n
  created : rows.map Profile.announced = es.filterMap Event.created?
  active : ∀ id ∈ es.filterMap Event.activated?, ∃ p ∈ rows, p.id = id ∧ p.active = true

/-- What a history has left in services that had done nothing before. -/
structure Tally (lost : Nat) (es : List Event) (o : Office) : Prop where
  nextId : o.registry.nextId = .ofNat (given lost es + 1)
  writes : o.vault.writes = (es.filterMap Event.relocated?).length
  letters : o.mailroom.letters.map (·.profile) = es.filterMap Event.letter?
  numbered : o.mailroom.Numbered
  visits : o.enrollments.scheduled.length = (es.filterMap Event.visit?).length
  /-- A number that is given out a second time takes the place of a row. -/
  rows : given lost es < 2 ^ 64 → Listed (given lost es) es o.registry.rows

theorem tally_empty (now : Timestamp) : Tally 0 [] (.empty now) := by
  refine ⟨rfl, rfl, rfl, ⟨rfl, rfl⟩, rfl, fun _ => ⟨.nil, ?_, rfl, ?_⟩⟩ <;>
    simp [Office.empty, Registry.empty]

theorem filterMap_concat {α : Type} (f : Event → Option α) (es : List Event) (e : Event) :
    (es ++ [e]).filterMap f = es.filterMap f ++ (f e).toList := by
  rw [List.filterMap_append]
  cases h : f e <;> simp [h]

theorem given_concat (lost : Nat) (es : List Event) (e : Event) :
    given lost (es ++ [e]) = given lost es + e.created?.toList.length := by
  rw [given, filterMap_concat, List.length_append, ← Nat.add_assoc]
  rfl

section
variable {lost n : Nat} {es : List Event} {e : Event} {o o' : Office} {rows : List Profile}

theorem Listed.mono {m : Nat} (h : Listed n es rows) (hn : n ≤ m) : Listed m es rows :=
  { h with numbers := fun p hp => (h.numbers p hp).trans hn }

/-- A new row has a number behind all others. -/
theorem Listed.place (h : Listed n es rows) (hn : n + 1 < 2 ^ 64) {p : Profile}
    (hid : p.id = ⟨.ofNat (n + 1)⟩) :
    Listed (n + 1) (es ++ [.profileCreated p.id p.user p.holds]) (Registry.place p rows) := by
  have hp : p.id.number.toNat = n + 1 := by rw [hid]; exact UInt64.toNat_ofNat_of_lt' hn
  have hlast : Registry.place p rows = rows ++ [p] := Registry.place_of_lt fun q hq => by
    rw [UInt64.lt_iff_toNat_lt, hp]
    exact Nat.lt_succ_of_le (h.numbers q hq)
  refine ⟨Registry.ordered_place p h.ordered, ?_, ?_, ?_⟩ <;> rw [hlast]
  · intro q hq
    rcases List.mem_append.1 hq with hq | hq
    · exact (h.numbers q hq).trans (Nat.le_succ n)
    · rw [List.mem_singleton.1 hq, hp]
  · rw [List.map_append, filterMap_concat, h.created]
    rfl
  · intro id hid
    obtain ⟨q, hq, he⟩ := h.active id (by simpa [Event.activated?] using hid)
    exact ⟨q, List.mem_append_left _ hq, he⟩

/-- Other events are not about new rows; that a row is active may be told of any that is. -/
theorem Listed.other (h : Listed n es rows) (hc : e.created? = none)
    (ha : ∀ id ∈ e.activated?, ∃ p ∈ rows, p.id = id ∧ p.active = true) :
    Listed n (es ++ [e]) rows := by
  refine { h with created := ?_, active := fun id hid => ?_ }
  · rw [h.created, filterMap_concat, hc]
    exact (List.append_nil _).symm
  · rw [filterMap_concat] at hid
    rcases List.mem_append.1 hid with hid | hid
    exacts [h.active id hid, ha id (Option.mem_toList.1 hid)]

theorem Listed.tell (h : Listed (given lost es) es o.registry.rows)
    (hn : o.registry.nextId = .ofNat (given lost es + 1)) (hlt : given lost (es ++ [e]) < 2 ^ 64)
    (done : Tells o e o') : Listed (given lost (es ++ [e])) (es ++ [e]) o'.registry.rows := by
  rw [given_concat] at hlt ⊢
  cases done with
  | created hid => exact h.place hlt (hid.trans (by rw [hn]))
  | activated row active => exact h.other rfl fun id hid => ⟨_, row, Option.some.inj hid, active⟩
  | relocated | linked | letter | visit => exact h.other rfl nofun

theorem nextId_of_tells (done : Tells o e o') :
    o'.registry.nextId = o.registry.nextId + .ofNat e.created?.toList.length := by
  cases done with
  | created => rfl
  | activated | relocated | linked | letter | visit => exact (UInt64.add_zero _).symm

theorem writes_of_tells (done : Tells o e o') :
    o'.vault.writes = o.vault.writes + e.relocated?.toList.length := by
  cases done with
  | relocated written =>
    unfold Vault.persist at written
    split at written
    · cases written
    · split at written <;> cases written
      rfl
  | created | activated | linked | letter | visit => rfl

theorem letters_of_tells (done : Tells o e o') :
    o'.mailroom.letters.map (·.profile) =
      o.mailroom.letters.map (·.profile) ++ e.letter?.toList := by
  cases done with
  | letter sent =>
    unfold Mailroom.send at sent
    split at sent <;> cases sent
    exact List.map_append
  | created | activated | relocated | linked | visit => exact (List.append_nil _).symm

theorem numbered_of_tells (h : o.mailroom.Numbered) (done : Tells o e o') :
    o'.mailroom.Numbered := by
  cases done with
  | letter sent => exact h.send sent
  | created | activated | relocated | linked | visit => exact h

theorem visits_of_tells (done : Tells o e o') :
    o'.enrollments.scheduled.length =
      o.enrollments.scheduled.length + e.visit?.toList.length := by
  cases done with
  | visit scheduled =>
    unfold Enrollments.schedule at scheduled
    split at scheduled
    · cases scheduled
    · split at scheduled <;> cases scheduled
      exact List.length_append
  | linked done =>
    rw [linked] at done
    cases hreach : o.reach .link with
    | error e => rw [hreach] at done; cases done
    | ok _ =>
      rw [hreach] at done
      change Enrollments.link _ _ _ = _ at done
      unfold Enrollments.link at done
      split at done <;> cases done
      rfl
  | created | activated | relocated | letter => rfl

theorem Tally.tell (h : Tally lost es o) (done : Tells o e o') :
    Tally lost (es ++ [e]) (o'.queue e) where
  nextId := by
    rw [Office.queue_registry, nextId_of_tells done, h.nextId, given_concat, ← UInt64.ofNat_add,
      Nat.add_right_comm]
  writes := by
    rw [Office.queue_vault, writes_of_tells done, filterMap_concat, List.length_append, h.writes]
  letters := by
    rw [Office.queue_mailroom, letters_of_tells done, filterMap_concat, h.letters]
  numbered := by
    rw [Office.queue_mailroom]
    exact numbered_of_tells h.numbered done
  visits := by
    rw [Office.queue_enrollments, visits_of_tells done, filterMap_concat, List.length_append,
      h.visits]
  rows hlt := by
    have hbefore : given lost es < 2 ^ 64 := by rw [given_concat] at hlt; omega
    rw [Office.queue_registry]
    exact (h.rows hbefore).tell h.nextId hlt done

theorem Tally.outside (h : Tally lost es o) (x : Outside) : Tally lost es (x.apply o) := by
  obtain ⟨hn, hw, hl, ⟨hnext, hcodes⟩, hv, hr⟩ := h
  cases x with
  | fail f on => cases f <;> exact ⟨hn, hw, hl, ⟨hnext, hcodes⟩, hv, hr⟩
  | enroll | keep | evict | setClock => exact ⟨hn, hw, hl, ⟨hnext, hcodes⟩, hv, hr⟩

theorem Tally.lose (h : Tally lost es o) : Tally (lost + 1) es
    { o with registry := { o.registry with nextId := o.registry.nextId + 1 } } := by
  have hg : given (lost + 1) es = given lost es + 1 := by unfold given; omega
  refine { h with nextId := ?_, rows := fun hlt => ?_ }
  · rw [h.nextId, hg, UInt64.ofNat_add (given lost es + 1)]; rfl
  · rw [hg] at hlt ⊢
    exact (h.rows (by omega)).mono (Nat.le_succ _)

theorem tally_history {now : Timestamp} (h : History lost es (.empty now) o) : Tally lost es o := by
  generalize ho : Office.empty now = o₀ at h
  induction h with
  | refl => subst ho; exact tally_empty now
  | tell _ done ih => exact (ih ho).tell done
  | lose _ ih => exact (ih ho).lose
  | drain _ ih => exact { ih ho with }
  | outside _ x ih => exact (ih ho).outside x

end

/-! ## Runs -/

/-- Something that is done at a desk, with a session that is brought there. -/
inductive Errand where
  | complete (s : Session) (password : Password) (user : UserId)
      (provider : Option ServiceProvider) (draw : Draft.Draw)
  | relocate (s : Session) (user : UserId)
  | requestLetter (s : Session) (user : UserId) (provider : Option ServiceProvider)
  | scheduleVisit (s : Session) (user : UserId)
  /-- The events are taken out. -/
  | drain
  | outside (x : Outside)

/-- The errand is to make a profile. -/
def Errand.completes : Errand → Bool
  | complete .. => true
  | _ => false

/-- The services, and the events that were taken out so far. -/
structure Ledger where
  office : Office
  told : List Event

namespace Ledger

/-- All events, those that wait to be taken out included. -/
def log (l : Ledger) : List Event :=
  l.told ++ l.office.events

/-- The services after a step. -/
def perform {α : Type} (l : Ledger) (s : Session) (x : Step α) : Ledger :=
  { l with office := (x.perform ⟨s, l.office⟩).2.office }

/-- What becomes of a ledger. -/
def next (config : Config) (l : Ledger) : Errand → Ledger
  | .complete s password user provider draw =>
    l.perform s (complete config password user provider draw)
  | .relocate s user => l.perform s (Completion.relocate user)
  | .requestLetter s user provider => l.perform s (Completion.requestLetter user provider)
  | .scheduleVisit s user => l.perform s (Completion.scheduleVisit user)
  | .drain => ⟨l.office.drain.2, l.told ++ l.office.drain.1⟩
  | .outside x => { l with office := x.apply l.office }

/-- What becomes of a ledger in the end. -/
def run (config : Config) (l : Ledger) (as : List Errand) : Ledger :=
  as.foldl (next config) l

/-- What an errand, or some errands, come to. -/
structure Added (l l' : Ledger) (completions : Nat) (lost : Nat) (es : List Event) : Prop where
  log : l'.log = l.log ++ es
  history : History lost es l.office l'.office
  numbers : given lost es ≤ completions
  once : OnceEach es

theorem Added.refl (l : Ledger) : Added l l 0 0 [] :=
  ⟨(List.append_nil _).symm, .refl _, Nat.le_refl 0, .refl _, .refl _⟩

theorem Added.trans {l l' l'' : Ledger} {k k' lost lost' : Nat} {es es' : List Event}
    (h : Added l l' k lost es) (h' : Added l' l'' k' lost' es') :
    Added l l'' (k + k') (lost + lost') (es ++ es') where
  log := by rw [h'.log, h.log, List.append_assoc]
  history := h.history.trans h'.history
  numbers := by
    have := h.numbers
    have := h'.numbers
    unfold given at *
    rw [List.filterMap_append, List.length_append]
    omega
  once := h.once.append h'.once

section
variable {l : Ledger} {s : Session} {config : Config}

theorem added_of_entry {o : Office} {lost : Nat} {es : List Event}
    (h : Entry lost es l.office o) {k : Nat} (numbers : given lost es ≤ k)
    (once : OnceEach es) : Added l { l with office := o } k lost es :=
  ⟨by rw [log, log, h.queued, List.append_assoc], h.history, numbers, once⟩

theorem exists_added_of_told {α : Type} {x : Step α} (h : Told x [] ⟨s, l.office⟩) :
    ∃ lost es, Added l (l.perform s x) 0 lost es := by
  obtain ⟨es, he, hm⟩ := h
  have absent {β : Type} {f : Event → Option β} (hf : ∀ e, e.isMilestone = false → f e = none) :
      es.filterMap f = [] := List.sublist_nil.1 (filterMap_sublist hf hm)
  have hc : es.filterMap Event.created? = [] := absent Event.created?_eq_none
  have ha : es.filterMap Event.activated? = [] := absent Event.activated?_eq_none
  have hl : es.filterMap Event.linked? = [] := absent Event.linked?_eq_none
  refine ⟨0, es, added_of_entry he ?_ ⟨?_, ?_⟩⟩
  · rw [given, hc]; exact Nat.le_refl 0
  · rw [ha]; exact List.nil_sublist _
  · rw [hl]; exact List.nil_sublist _

theorem next_complete {password : Password} {user : UserId} {provider : Option ServiceProvider}
    {draw : Draft.Draw} {r : Except FlowError Outcome} {d' : Desk}
    (h : (complete config password user provider draw).perform ⟨s, l.office⟩ = (r, d')) :
    l.next config (.complete s password user provider draw) = ⟨d'.office, l.told⟩ := by
  rw [next, perform, h]

/-- Taking the events out loses none and repeats none. -/
theorem log_drain : (l.next config .drain).log = l.log :=
  List.append_nil _

theorem events_outside (o : Office) (x : Outside) : (x.apply o).events = o.events := by
  cases x with
  | fail f on => cases f <;> rfl
  | enroll | keep | evict | setClock => rfl

/-- Every errand is told of. -/
theorem exists_added (config : Config) (l : Ledger) (a : Errand) :
    ∃ lost es, Added l (l.next config a) (if a.completes then 1 else 0) lost es := by
  cases a with
  | complete s password user provider draw =>
    obtain ⟨lost, es, he, hn, honce⟩ :=
      entry_complete config password user provider draw ⟨s, l.office⟩
    exact ⟨lost, es, added_of_entry he hn honce⟩
  | relocate s user => exact exists_added_of_told told_relocate
  | requestLetter s user provider => exact exists_added_of_told told_requestLetter
  | scheduleVisit s user => exact exists_added_of_told told_scheduleVisit
  | drain =>
    refine ⟨0, [], ?_, (History.refl _).drain, Nat.le_refl 0, .refl _, .refl _⟩
    rw [log_drain, List.append_nil]
  | outside x =>
    refine ⟨0, [], ?_, (History.refl _).outside x, Nat.le_refl 0, .refl _, .refl _⟩
    rw [List.append_nil]
    exact congrArg (l.told ++ ·) (events_outside l.office x)

theorem exists_added_run (config : Config) (l : Ledger) (as : List Errand) :
    ∃ lost es, Added l (l.run config as) (as.countP Errand.completes) lost es := by
  induction as generalizing l with
  | nil => exact ⟨0, [], .refl l⟩
  | cons a as ih =>
    obtain ⟨lost, es, h⟩ := exists_added config l a
    obtain ⟨lost', es', h'⟩ := ih (l.next config a)
    rw [List.countP_cons, Nat.add_comm]
    exact ⟨_, _, h.trans h'⟩

end

/-- The letters of a run are numbered one after the other. -/
theorem numbered_run (config : Config) (now : Timestamp) (as : List Errand) :
    (run config ⟨.empty now, []⟩ as).office.mailroom.Numbered := by
  obtain ⟨lost, es, h⟩ := exists_added_run config ⟨.empty now, []⟩ as
  exact (tally_history h.history).numbered

end Ledger

/-- The events, taken out or not, account for what was done to services that had done nothing. -/
structure Balanced (config : Config) (now : Timestamp) (as : List Errand) (l : Ledger) : Prop where
  /-- Each event comes with what it tells of, in order, and nothing else is done. -/
  history : ∃ lost, History lost l.log (.empty now) l.office
  writes : l.office.vault.writes = (l.log.filterMap Event.relocated?).length
  letters : l.office.mailroom.letters.map (·.profile) = l.log.filterMap Event.letter?
  visits : l.office.enrollments.scheduled.length = (l.log.filterMap Event.visit?).length
  once : OnceEach l.log
  /-- Before numbers are given out again, the rows are the profiles that were created. -/
  created : as.countP Errand.completes < 2 ^ 64 →
    l.office.registry.rows.map Profile.announced = l.log.filterMap Event.created? ∧
      (l.office.registry.rows.map (·.id)).Nodup
  active : as.countP Errand.completes < 2 ^ 64 →
    (l.log.filterMap Event.activated?).Nodup ∧ (l.log.filterMap Event.linked?).Nodup ∧
      ∀ id ∈ l.log.filterMap Event.activated?,
        ∃ p ∈ l.office.registry.rows, p.id = id ∧ p.active = true
  /-- Taking the events out loses none and repeats none. -/
  drained : (l.next config .drain).log = l.log ∧ (l.next config .drain).office.events = []

/-- **The events account for what is done**, over every run of errands with any sessions, whatever
    fails in between and whenever the events are taken out. -/
theorem balanced_run (config : Config) (now : Timestamp) (as : List Errand) :
    Balanced config now as (Ledger.run config ⟨.empty now, []⟩ as) := by
  obtain ⟨lost, es, hlog, hhistory, hnumbers, honce⟩ :=
    Ledger.exists_added_run config ⟨.empty now, []⟩ as
  change _ = es at hlog
  rw [← hlog] at hhistory hnumbers honce
  have htally := tally_history hhistory
  have hlisted (few : as.countP Errand.completes < 2 ^ 64) := htally.rows (hnumbers.trans_lt few)
  have hids (few : as.countP Errand.completes < 2 ^ 64) :
      ((Ledger.run config ⟨.empty now, []⟩ as).office.registry.rows.map (·.id)).Nodup :=
    List.pairwise_map.2 (hlisted few).ordered.distinct
  constructor
  case history => exact ⟨lost, hhistory⟩
  case writes => exact htally.writes
  case letters => exact htally.letters
  case visits => exact htally.visits
  case once => exact honce
  case created => exact fun few => ⟨(hlisted few).created, hids few⟩
  case active =>
    intro few
    have hcreated : (((Ledger.run config ⟨.empty now, []⟩ as).log.filterMap
        Event.created?).map (·.1)).Nodup := by
      rw [← (hlisted few).created, List.map_map]
      exact hids few
    exact ⟨honce.activated.nodup hcreated, honce.linked.nodup hcreated, (hlisted few).active⟩
  case drained => exact ⟨Ledger.log_drain, rfl⟩

open Registry.Traffic (zeroUser)

/-- A letter was chosen, and an enrollment is open. -/
def awaitingDesk : Desk where
  session := firstDesk.session.put .mechanism (some .letter)
  office := (Outside.enroll zeroUser).apply (.empty ⟨7⟩)

/-- A session with a profile. -/
def visitSession : Session :=
  firstDesk.session.put .profileId (some ⟨1⟩)

/-- A letter is sent, the events are taken out, and a visit is scheduled at the second attempt. -/
def letterErrands : List Errand :=
  [.outside (.enroll zeroUser), .complete awaitingDesk.session ⟨"secret"⟩ zeroUser none zeroDraw,
    .drain, .outside (.fail .scheduling true), .scheduleVisit visitSession zeroUser,
    .outside (.fail .scheduling false), .scheduleVisit visitSession zeroUser]

/-- What these errands come to. -/
def letterLedger : Ledger :=
  .run .light ⟨.empty ⟨7⟩, []⟩ letterErrands

/-- Once the profile is made, the visit is told of after all else. -/
theorem told_letterLedger {out : Outcome} {d' : Desk} {e : Enrollment}
    (h : (complete .light ⟨"secret"⟩ zeroUser none zeroDraw).perform awaitingDesk = (.ok out, d'))
    (he : d'.office.enrollments.ofUser zeroUser = some e) :
    letterLedger.told = d'.office.events ∧ letterLedger.office.events = [.visitScheduled ⟨1⟩] := by
  have made : Ledger.next .light (.next .light ⟨.empty ⟨7⟩, []⟩ (.outside (.enroll zeroUser)))
      (.complete awaitingDesk.session ⟨"secret"⟩ zeroUser none zeroDraw) = ⟨d'.office, []⟩ :=
    Ledger.next_complete h
  rw [letterLedger, letterErrands, Ledger.run, List.foldl_cons, List.foldl_cons, made]
  generalize d'.office = o at he
  let o₁ := o.drain.2.setFailing .scheduling true
  let o₂ := o₁.setFailing .scheduling false
  have refused : (scheduleVisit zeroUser).perform ⟨visitSession, o₁⟩ =
      (.error (.vendorFailed .visits .timeout), ⟨visitSession, o₁⟩) := by
    rw [scheduleVisit_eq rfl]
    exact @perform_schedule_error ⟨visitSession, o₁⟩ zeroUser ⟨1⟩ .empty _ rfl rfl
  obtain ⟨es, hes⟩ : ∃ es, o₂.enrollments.schedule zeroUser = .ok es := by
    have off : ¬ o₂.enrollments.failScheduling = true := Bool.false_ne_true
    have he₂ : o₂.enrollments.ofUser zeroUser = some e := he
    rw [Enrollments.schedule, if_neg off, he₂]
    exact ⟨_, rfl⟩
  have scheduled := @perform_schedule_ok ⟨visitSession, o₂⟩ zeroUser ⟨1⟩ .empty es rfl hes
  rw [← scheduleVisit_eq rfl] at scheduled
  simp only [List.foldl_cons, List.foldl_nil, Ledger.next, Ledger.perform, Outside.apply]
  rw [refused, scheduled]
  exact ⟨rfl, rfl⟩

theorem balanced_run_letter :
    Balanced .light ⟨7⟩ letterErrands letterLedger ∧
      ∃ id, letterLedger.told = [.profileCreated id zeroUser [.letter, .inPerson],
          .enrollmentLinked id 1, .piiRelocated id, .letterRequested id] ∧
        letterLedger.office.events = [.visitScheduled ⟨1⟩] ∧
        letterLedger.office.vault.writes = 1 ∧
        letterLedger.office.mailroom.letters.map (·.profile) = [id] ∧
        letterLedger.office.enrollments.scheduled.length = 1 := by
  have balanced : Balanced .light ⟨7⟩ letterErrands letterLedger :=
    balanced_run .light ⟨7⟩ letterErrands
  have quiet := not_isOn_of_off (o := awaitingDesk.office) rfl rfl rfl rfl rfl rfl rfl
  obtain ⟨p, profile, activation, r, hp, hc⟩ := @exists_commit_of_quiet awaitingDesk zeroUser none
    .light ⟨"secret"⟩ zeroDraw .empty quiet (by decide) (by decide) rfl
    (fun q hq => absurd hq List.not_mem_nil)
  obtain ⟨out, d', h, undisturbed⟩ :=
    exists_undisturbed (Registry.reachable_empty ⟨7⟩) (.establish .empty zeroUser) quiet hp hc
  have holds : out.holds = [.letter, .inPerson] := undisturbed.holds.trans (by decide)
  have events : d'.office.events = [.profileCreated out.profile zeroUser [.letter, .inPerson],
      .enrollmentLinked out.profile 1, .piiRelocated out.profile, .letterRequested out.profile] := by
    rw [undisturbed.events, holds, if_neg (by decide), if_pos (by decide)]
    rfl
  obtain ⟨e, he⟩ : ∃ e, d'.office.enrollments.ofUser zeroUser = some e := by
    rw [undisturbed.enrollment, if_pos (by decide)]
    exact ⟨_, rfl⟩
  obtain ⟨told, last⟩ := told_letterLedger h he
  have log : letterLedger.log = [.profileCreated out.profile zeroUser [.letter, .inPerson],
      .enrollmentLinked out.profile 1, .piiRelocated out.profile, .letterRequested out.profile,
      .visitScheduled ⟨1⟩] := by
    rw [Ledger.log, told, last, events]
    rfl
  refine ⟨balanced, out.profile, told.trans events, last, ?_, ?_, ?_⟩
  · rw [balanced.writes, log]
    rfl
  · rw [balanced.letters, log]
    rfl
  · rw [balanced.visits, log]
    rfl

end Completion

end Proofing
