import Proofing.Proofs.Phone.Separators
import Proofing.Proofs.Session.Acts
/-
  Proofing — the record of the numbers that were turned down.

  A number is noted by whatever reads it (`PhoneReader`), between all the other
  things that are done with a session, which may be stored and loaded again at any
  time.

  * `heard` are the numbers that were named so far, as often as they were;
  * `rejected_next`: what happens adds the number that it names, if it names one,
    and nothing else touches the record;
  * `rejections_recorded`: so the record has each number once, where it was named first, and
    only ever grows at its end.
-/
namespace Proofing

/-! ## Each element once -/

section
variable {α : Type} [DecidableEq α]

theorem eraseDups_concat (l : List α) (a : α) :
    (l ++ [a]).eraseDups = if a ∈ l then l.eraseDups else l.eraseDups ++ [a] := by
  rw [List.eraseDups_append]
  split <;> simp_all [List.removeAll, List.eraseDups_cons]

theorem nodup_eraseDups (l : List α) : l.eraseDups.Nodup := by
  induction l using List.reverseRecOn with
  | nil => exact List.nodup_nil
  | append_singleton l a ih =>
    rw [eraseDups_concat]
    split
    case isTrue => exact ih
    case isFalse fresh =>
      rw [← List.concat_eq_append]
      exact ih.concat (mt List.mem_eraseDups.1 fresh)

end

namespace Session

/-- Something that happens to a session: a number is noted as a text has it, or an act. -/
inductive Event (ν : Type) where
  | note (reader : ν) (raw : String)
  | act (a : Act)

variable {ν : Type} [PhoneReader ν] {config : Config} {s s' : Session} {a : Act}

namespace Event

/-- The session afterwards; what is refused leaves it as it was. -/
def next (config : Config) (s : Session) : Event ν → Session
  | note reader raw =>
    match s.noteRejected reader raw with
    | .ok (_, s') => s'
    | .error _ => s
  | act a => (perform config s a).getD s

/-- The number that is named. -/
def number? : Event ν → Option PhoneNumber
  | note reader raw => (PhoneReader.parse reader raw).toOption
  | act (.noteRejected normalizer raw) => (normalizer.parse raw).toOption
  | act _ => none

end Event

/-- The session that events lead to from one in which nothing has happened. -/
def after (id : SessionId) (config : Config) (events : List (Event ν)) : Session :=
  events.foldl (Event.next config) (new id config)

/-- The numbers that events name, in order. -/
def heard (events : List (Event ν)) : List PhoneNumber :=
  events.filterMap Event.number?

/-! ## One event -/

theorem noteRejected_eq_ok_iff {reader : ν} {raw : String} {isNew : Bool} :
    s.noteRejected reader raw = .ok (isNew, s') ↔
      ∃ x, PhoneReader.parse reader raw = .ok x ∧ isNew = decide (x ∉ s.rejected.numbers) ∧
        s' = { s with rejected := s.rejected.add x } := by
  constructor
  · intro h
    unfold noteRejected at h
    cases hn : s.rejected.note reader raw <;> rw [hn] at h <;> cases h
    obtain ⟨x, hx, hnew, hr⟩ := RejectedNumbers.note_eq_ok_iff.1 hn
    exact ⟨x, hx, hnew, by rw [hr]⟩
  · rintro ⟨x, hx, rfl, rfl⟩
    rw [noteRejected, RejectedNumbers.note_eq_ok_iff.2 ⟨x, hx, rfl, rfl⟩]
    rfl

theorem noteRejected_eq_error_iff {reader : ν} {raw : String} {e : FormatError} :
    s.noteRejected reader raw = .error e ↔ PhoneReader.parse reader raw = .error e := by
  rw [← RejectedNumbers.note_eq_error_iff (r := s.rejected)]
  unfold noteRejected
  cases s.rejected.note reader raw <;> simp [bind, Except.bind, pure, Except.pure]

theorem next_note (config : Config) (s : Session) (reader : ν) (raw : String) :
    (Event.note reader raw).next config s = { s with
      rejected := (PhoneReader.parse reader raw).toOption.elim s.rejected s.rejected.add } := by
  rw [Event.next]
  cases hx : PhoneReader.parse reader raw with
  | error e => rw [noteRejected_eq_error_iff.2 hx]; rfl
  | ok x => rw [noteRejected_eq_ok_iff.2 ⟨x, hx, rfl, rfl⟩]; rfl

theorem next_act_noteRejected (config : Config) (s : Session) (normalizer : Normalizer)
    (raw : String) :
    (Event.act (.noteRejected normalizer raw) : Event ν).next config s =
      (Event.note normalizer raw).next config s := by
  rw [Event.next, Event.next, perform]
  cases s.noteRejected normalizer raw <;> rfl

/-- Nothing but a number that is named changes the record. -/
theorem rejected_perform (h : perform config s a = some s') (under : s.Under config)
    (other : ∀ normalizer raw, a ≠ .noteRejected normalizer raw) : s'.rejected = s.rejected := by
  obtain ⟨_, _, _, _, _, rfl, -, hrejected⟩ := perform_frame h under
  refine hrejected.resolve_right ?_
  rintro ⟨normalizer, raw, ha⟩
  exact other normalizer raw ha

theorem under_next (under : s.Under config) (e : Event ν) : (e.next config s).Under config := by
  cases e with
  | note reader raw =>
    rw [next_note]
    exact under.update ..
  | act a =>
    rw [Event.next]
    cases h : perform config s a with
    | none => exact under
    | some s' => exact under_perform h under

theorem rejected_next (under : s.Under config) (e : Event ν) :
    (e.next config s).rejected = e.number?.elim s.rejected s.rejected.add := by
  cases e with
  | note reader raw => rw [next_note]; rfl
  | act a =>
    by_cases other : ∀ normalizer raw, a ≠ .noteRejected normalizer raw
    · have unnamed : (Event.act a : Event ν).number? = none := by
        cases a <;> first | rfl | exact absurd rfl (other _ _)
      rw [unnamed, Event.next]
      cases h : perform config s a with
      | none => rfl
      | some s' => exact rejected_perform h under other
    · simp only [not_forall, not_not] at other
      obtain ⟨normalizer, raw, rfl⟩ := other
      rw [next_act_noteRejected, next_note]
      rfl

/-! ## Events in a row -/

variable {events : List (Event ν)}

theorem after_concat (id : SessionId) (config : Config) (events : List (Event ν)) (e : Event ν) :
    after id config (events ++ [e]) = e.next config (after id config events) :=
  List.foldl_concat ..

theorem under_after (id : SessionId) (config : Config) (events : List (Event ν)) :
    (after id config events).Under config := by
  induction events using List.reverseRecOn with
  | nil => exact ⟨rfl, rfl, rfl⟩
  | append_singleton events e ih =>
    rw [after_concat]
    exact under_next ih e

/-- Each number that was named is there once, where it was named first. -/
theorem numbers_after (id : SessionId) (config : Config) (events : List (Event ν)) :
    (after id config events).rejected.numbers = (heard events).eraseDups := by
  induction events using List.reverseRecOn with
  | nil => rfl
  | append_singleton events e ih =>
    rw [after_concat, rejected_next (under_after ..), heard, List.filterMap_append, ← heard]
    cases hx : e.number? with
    | none => simp [hx, ih]
    | some x =>
      rw [List.filterMap_cons_some hx, List.filterMap_nil, eraseDups_concat, Option.elim_some,
        RejectedNumbers.add]
      simp only [ih, List.mem_eraseDups]
      split
      · exact ih
      · rfl

theorem mem_numbers_after (id : SessionId) (config : Config) {x : PhoneNumber} :
    x ∈ (after id config events).rejected.numbers ↔ x ∈ heard events := by
  rw [numbers_after, List.mem_eraseDups]

/-- The record after some events, and what is answered to a text then. -/
structure Recorded (id : SessionId) (config : Config) (events : List (Event ν)) : Prop where
  numbers : (after id config events).rejected.numbers = (heard events).eraseDups
  nodup : (after id config events).rejected.numbers.Nodup
  grows (more : List (Event ν)) : (after id config events).rejected.numbers <+:
    (after id config (events ++ more)).rejected.numbers
  fresh {reader : ν} {raw : String} :
    (∃ s, (after id config events).noteRejected reader raw = .ok (true, s)) ↔
      ∃ x, PhoneReader.parse reader raw = .ok x ∧ x ∉ heard events
  known {reader : ν} {raw : String} {s : Session} :
    (after id config events).noteRejected reader raw = .ok (false, s) ↔
      s = after id config events ∧ ∃ x, PhoneReader.parse reader raw = .ok x ∧ x ∈ heard events
  refused {reader : ν} {raw : String} {e : FormatError} :
    (after id config events).noteRejected reader raw = .error e ↔
      PhoneReader.parse reader raw = .error e
  keeps {reader : ν} {raw : String}
    (stale : ¬ ∃ s, (after id config events).noteRejected reader raw = .ok (true, s)) :
    after id config (events ++ [.note reader raw]) = after id config events

/-- **The numbers that were turned down are recorded once each, in the order in which they came
    up.**  Whatever reads them, and whatever else is done: nothing is taken out of the record or put
    in front of its end, and a number is new exactly if it was not named before. -/
theorem rejections_recorded (id : SessionId) (config : Config) (events : List (Event ν)) :
    Recorded id config events where
  numbers := numbers_after id config events
  nodup := by
    rw [numbers_after]
    exact nodup_eraseDups _
  grows more := by
    rw [numbers_after, numbers_after, heard, heard, List.filterMap_append, List.eraseDups_append]
    exact List.prefix_append ..
  fresh {reader raw} := by
    constructor
    · rintro ⟨s, hs⟩
      obtain ⟨x, hx, new, -⟩ := noteRejected_eq_ok_iff.1 hs
      exact ⟨x, hx, mt (mem_numbers_after id config).2 (of_decide_eq_true new.symm)⟩
    · rintro ⟨x, hx, new⟩
      have unnoted := mt (mem_numbers_after id config).1 new
      exact ⟨_, noteRejected_eq_ok_iff.2 ⟨x, hx, (decide_eq_true unnoted).symm, rfl⟩⟩
  known {reader raw s} := by
    constructor
    · intro h
      obtain ⟨x, hx, old, rfl⟩ := noteRejected_eq_ok_iff.1 h
      have noted : x ∈ (after id config events).rejected.numbers := by simpa using old
      exact ⟨by rw [RejectedNumbers.add_of_mem noted], x, hx, (mem_numbers_after id config).1 noted⟩
    · rintro ⟨rfl, x, hx, old⟩
      have noted := (mem_numbers_after id config).2 old
      refine noteRejected_eq_ok_iff.2 ⟨x, hx, by simpa using noted, ?_⟩
      rw [RejectedNumbers.add_of_mem noted]
  refused := noteRejected_eq_error_iff
  keeps {reader raw} stale := by
    rw [after_concat, next_note]
    cases hx : PhoneReader.parse reader raw with
    | error e => rfl
    | ok x =>
      have noted : x ∈ (after id config events).rejected.numbers := by
        by_contra unnoted
        exact stale ⟨_, noteRejected_eq_ok_iff.2 ⟨x, hx, (decide_eq_true unnoted).symm, rfl⟩⟩
      change { after id config events with rejected := (after id config events).rejected.add x } = _
      rw [RejectedNumbers.add_of_mem noted]

end Session

end Proofing
