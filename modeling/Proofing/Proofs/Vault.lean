import Mathlib.Data.List.Induction
import Proofing.Completion.Basic
/-
  Proofing — what the tokens of a user stand for.

  A vault is used by many users: data is kept for a token, taken in from a session,
  or forgotten (`Vault.Deed`).

  * `LastKept` says of the deeds alone which data a token stands for: the data that
    was kept for it last, if the user was not forgotten since.  The vault has that
    data for the token, and no other (`references_run_iff`);
  * whoever has a token that stands for something has an entry in the vault as well
    (`Covered`), so that asking for the entry first keeps no data back;
  * `Same` says that two vaults are the same to a user: what others do changes
    nothing for the user, neither what there is (`same_run_filter`) nor what the
    vault replies (`replies_filter`);
  * `references_resolve` puts it together for a session with a token.
-/
namespace Proofing

namespace Vault

/-- Something that is done with a vault. -/
inductive Deed where
  | keep (user : UserId) (token : CacheToken) (profile : ProfileId) (pii : Pii)
  | persist (user : UserId) (profile : ProfileId) (staged : StagedText)
  | evict (user : UserId)
  /-- The vault stops taking data in, or starts to. -/
  | fail (on : Bool)

/-- What the vault replies to data that is to be taken in. -/
def reply? (v : Vault) : Deed → Option (Except StoreFault Unit)
  | .persist user profile staged => some ((v.persist user profile staged).map fun _ => ())
  | _ => none

/-- The vault after a deed. -/
def next (v : Vault) : Deed → Vault
  | .keep user token profile pii => v.keep user token profile pii
  | .persist user profile staged => (v.persist user profile staged).toOption.getD v
  | .evict user => v.evict user
  | .fail on => { v with failWrites := on }

/-- The vault after some deeds. -/
def run (v : Vault) (ds : List Deed) : Vault :=
  ds.foldl next v

theorem run_concat (v : Vault) (ds : List Deed) (d : Deed) :
    v.run (ds ++ [d]) = (v.run ds).next d := by
  rw [run, List.foldl_append]
  rfl

variable {v w : Vault} {user : UserId} {token : CacheToken} {pii : Pii} {d : Deed}

/-- Data is taken in, or nothing changes. -/
theorem next_persist (v : Vault) (user : UserId) (profile : ProfileId) (staged : StagedText) :
    v.next (.persist user profile staged) = v ∨ ∃ pii, v.next (.persist user profile staged) =
      { v.enter user profile pii with writes := v.writes + 1 } := by
  rw [next, Vault.persist]
  split
  · exact .inl rfl
  · cases staged.toPii? with
    | none => exact .inl rfl
    | some pii => exact .inr ⟨pii, rfl⟩

/-! ## What a token stands for -/

/-- The deed settles anew what a token of a user stands for. -/
def Deed.Settles (user : UserId) (token : CacheToken) (d : Deed) : Prop :=
  d = evict user ∨ ∃ profile pii, d = keep user token profile pii

/-- The data was kept for the token of the user, and nothing has settled since what it stands
    for. -/
def LastKept (user : UserId) (token : CacheToken) (pii : Pii) (ds : List Deed) : Prop :=
  ∃ before profile after, ds = before ++ .keep user token profile pii :: after ∧
    ∀ d ∈ after, ¬ d.Settles user token

theorem lastKept_concat {ds : List Deed} : LastKept user token pii (ds ++ [d]) ↔
    (∃ profile, d = .keep user token profile pii) ∨
      ¬ d.Settles user token ∧ LastKept user token pii ds := by
  constructor
  · rintro ⟨before, profile, after, hds, hafter⟩
    rcases List.eq_nil_or_concat after with rfl | ⟨after, d', rfl⟩
    · obtain ⟨-, hd⟩ := List.append_inj' hds rfl
      exact .inl ⟨profile, (List.cons.inj hd).1⟩
    · rw [List.concat_eq_append] at hds hafter
      rw [← List.cons_append, ← List.append_assoc] at hds
      obtain ⟨rfl, hd⟩ := List.append_inj' hds rfl
      obtain rfl := (List.cons.inj hd).1
      exact .inr ⟨hafter d (by simp), before, profile, after, rfl,
        fun d' hd' => hafter d' (by simp [hd'])⟩
  · rintro (⟨profile, rfl⟩ | ⟨hd, before, profile, after, rfl, hafter⟩)
    · exact ⟨ds, profile, [], rfl, by simp⟩
    · refine ⟨before, profile, after ++ [d], by simp, ?_⟩
      simp only [List.mem_append, List.mem_singleton]
      rintro d' (hd' | rfl)
      · exact hafter d' hd'
      · exact hd

theorem references_next_iff : (v.next d).references user token = some pii ↔
    (∃ profile, d = .keep user token profile pii) ∨
      ¬ d.Settles user token ∧ v.references user token = some pii := by
  cases d with
  | keep u t profile p =>
    by_cases hut : user = u ∧ token = t
    · obtain ⟨rfl, rfl⟩ := hut
      simp [next, Vault.keep, Deed.Settles]
    · have hother : ∀ profile' pii', Deed.keep u t profile p ≠ .keep user token profile' pii' := by
        rintro profile' pii' ⟨⟩
        exact hut ⟨rfl, rfl⟩
      have hsame : (v.next (.keep u t profile p)).references user token = v.references user token :=
        if_neg hut
      simp [hsame, hother, Deed.Settles]
  | persist u profile staged =>
    have hsame : (v.next (.persist u profile staged)).references = v.references := by
      rcases v.next_persist u profile staged with h | ⟨p, h⟩ <;> rw [h]
      rfl
    simp [hsame, Deed.Settles]
  | evict u =>
    by_cases hu : user = u
    · subst hu
      simp [next, Vault.evict, Deed.Settles]
    · simp [next, Vault.evict, Deed.Settles, hu, Ne.symm hu]
  | fail on => simp [next, Deed.Settles]

/-- **A token stands for the data that was kept for it last**, until the user is forgotten. -/
theorem references_run_iff (ds : List Deed) :
    (run .empty ds).references user token = some pii ↔ LastKept user token pii ds := by
  induction ds using List.reverseRecOn with
  | nil => simp [run, empty, LastKept]
  | append_singleton ds d ih => rw [run_concat, references_next_iff, lastKept_concat, ih]

/-! ## Entries -/

/-- Whoever has a token that stands for something has an entry as well. -/
def Covered (v : Vault) : Prop :=
  ∀ user token pii, v.references user token = some pii → v.holds user = true

theorem holds_enter (v : Vault) (u : UserId) (profile : ProfileId) (p : Pii) :
    (v.enter u profile p).holds user = (decide (user = u) || v.holds user) := by
  by_cases hu : user = u <;> simp [holds, enter, hu]

theorem covered_next (h : v.Covered) (d : Deed) : (v.next d).Covered := by
  intro user token pii href
  cases d with
  | keep u t profile p =>
    change (v.enter u profile p).holds user = true
    rw [holds_enter]
    by_cases hu : user = u
    · simp [hu]
    · have hsame : (v.next (.keep u t profile p)).references user token = v.references user token :=
        if_neg fun hut => hu hut.1
      rw [h user token pii (hsame ▸ href), Bool.or_true]
  | persist u profile staged =>
    rcases v.next_persist u profile staged with hv | ⟨p, hv⟩ <;> rw [hv] at href ⊢
    · exact h user token pii href
    · change (v.enter u profile p).holds user = true
      rw [holds_enter, h user token pii href, Bool.or_true]
  | evict u =>
    by_cases hu : user = u
    · simp [next, Vault.evict, hu] at href
    · simp only [next, Vault.evict, holds, if_neg hu] at href ⊢
      exact h user token pii href
  | fail on => exact h user token pii href

theorem covered_run (ds : List Deed) : (run .empty ds).Covered := by
  induction ds using List.reverseRecOn with
  | nil => exact fun _ _ _ h => nomatch h
  | append_singleton ds d ih => rw [run_concat]; exact covered_next ih d

/-! ## Other users -/

/-- The deed matters to a user: it is done for the user, or throws the switch. -/
def Deed.concerns (user : UserId) : Deed → Bool
  | keep u .. => u = user
  | persist u .. => u = user
  | evict u => u = user
  | fail _ => true

/-- Two vaults are the same to a user. -/
structure Same (user : UserId) (v w : Vault) : Prop where
  durable : v.durable user = w.durable user
  references : v.references user = w.references user
  failWrites : v.failWrites = w.failWrites

theorem Same.refl (user : UserId) (v : Vault) : Same user v v :=
  ⟨rfl, rfl, rfl⟩

theorem Same.trans {x : Vault} (h : Same user v w) (h' : Same user w x) : Same user v x :=
  ⟨h.durable.trans h'.durable, h.references.trans h'.references, h.failWrites.trans h'.failWrites⟩

theorem Same.enter (h : Same user v w) (u : UserId) (profile : ProfileId) (p : Pii) :
    Same user (v.enter u profile p) (w.enter u profile p) where
  durable := by simp only [Vault.enter, h.durable]
  references := h.references
  failWrites := h.failWrites

/-- What is done for others changes nothing for the user. -/
theorem same_next_of_not_concerns (h : d.concerns user = false) (v : Vault) :
    Same user (v.next d) v := by
  cases d with
  | keep u t profile p =>
    have hu : user ≠ u := fun e => of_decide_eq_false h e.symm
    exact ⟨if_neg hu, funext fun t' => if_neg fun e => hu e.1, rfl⟩
  | persist u profile staged =>
    have hu : user ≠ u := fun e => of_decide_eq_false h e.symm
    rcases v.next_persist u profile staged with hv | ⟨p, hv⟩ <;> rw [hv]
    · exact ⟨rfl, rfl, rfl⟩
    · exact ⟨if_neg hu, rfl, rfl⟩
  | evict u =>
    have hu : user ≠ u := fun e => of_decide_eq_false h e.symm
    exact ⟨if_neg hu, funext fun t => if_neg hu, rfl⟩
  | fail on => cases h

/-- Deeds come to the same in vaults that are the same. -/
theorem Same.next (h : Same user v w) (d : Deed) : Same user (v.next d) (w.next d) := by
  cases d with
  | keep u t profile p =>
    refine ⟨(h.enter u profile p).durable, ?_, h.failWrites⟩
    simp only [Vault.next, Vault.keep, h.references]
  | persist u profile staged =>
    simp only [Vault.next, Vault.persist, h.failWrites]
    split
    · exact h
    · cases staged.toPii? with
      | none => exact h
      | some p => exact ⟨(h.enter u profile p).durable, h.references, h.failWrites⟩
  | evict u =>
    refine ⟨?_, ?_, h.failWrites⟩
    · simp only [Vault.next, Vault.evict, h.durable]
    · simp only [Vault.next, Vault.evict, h.references]
  | fail on => exact ⟨h.durable, h.references, rfl⟩

/-- What the vault replies to what is done for a user, in order. -/
def replies (user : UserId) : Vault → List Deed → List (Except StoreFault Unit)
  | _, [] => []
  | v, d :: ds =>
    (if d.concerns user then (v.reply? d).toList else []) ++ replies user (v.next d) ds

theorem Same.reply? (h : Same user v w) (d : Deed) : v.reply? d = w.reply? d := by
  cases d with
  | persist u profile staged =>
    simp only [Vault.reply?, Vault.persist, h.failWrites]
    cases w.failWrites <;> cases staged.toPii? <;> rfl
  | _ => rfl

theorem same_run_filter (h : Same user v w) (ds : List Deed) :
    Same user (v.run ds) (w.run (ds.filter (·.concerns user))) := by
  induction ds generalizing v w with
  | nil => exact h
  | cons d ds ih =>
    rw [List.filter_cons]
    split
    · exact ih (h.next d)
    · rename_i hd
      exact ih ((same_next_of_not_concerns (Bool.eq_false_iff.2 hd) v).trans h)

theorem replies_filter (h : Same user v w) (ds : List Deed) :
    replies user v ds = replies user w (ds.filter (·.concerns user)) := by
  induction ds generalizing v w with
  | nil => rfl
  | cons d ds ih =>
    rw [replies, List.filter_cons]
    split
    · rename_i hd
      rw [replies, if_pos hd, h.reply?, ih (h.next d)]
    · rename_i hd
      rw [List.nil_append, ih ((same_next_of_not_concerns (Bool.eq_false_iff.2 hd) v).trans h)]

end Vault

/-! ## Sessions with a token -/

namespace Completion
variable {o : Office} {s : Session} {user : UserId} {token : CacheToken}

open Vault (LastKept)

/-- What is left to be found where the vault is asked for an entry first. -/
theorem resolvePii_reference (reach : Call.holds ∉ o.down)
    (hs : s.held .pii = some (.reference token)) :
    resolvePii o s user = (if o.vault.holds user then o.vault.fetch user token
      else .error (.notFound "cached pii")).mapError .notKept := by
  have hreach : o.reach .holds = .ok () := if_neg reach
  simp only [resolvePii, hs, hreach]
  cases o.vault.holds user <;> rfl

/-- To a session, vaults are the same that are the same to its user. -/
theorem resolvePii_of_same {o' : Office} (h : Vault.Same user o.vault o'.vault)
    (down : o.down = o'.down) (s : Session) : resolvePii o s user = resolvePii o' s user := by
  have hreach : o.reach .holds = o'.reach .holds := by simp only [Office.reach, down]
  have hholds : o.vault.holds user = o'.vault.holds user := by simp only [Vault.holds, h.durable]
  have hfetch (token : CacheToken) : o.vault.fetch user token = o'.vault.fetch user token := by
    simp only [Vault.fetch, h.references]
  simp only [resolvePii, hreach, hholds, hfetch]

/-- What the tokens of a user come to after some deeds. -/
structure Resolves (ds : List Vault.Deed) (o : Office) (user : UserId) : Prop where
  /-- Whoever has a token that stands for something has an entry. -/
  covered : o.vault.Covered
  /-- Fetching and resolving find the data that was kept last. -/
  fetched : ∀ token pii, o.vault.fetch user token = .ok pii ↔ LastKept user token pii ds
  resolved : ∀ (s : Session) token, s.held .pii = some (.reference token) → ∀ pii,
    resolvePii o s user = .ok pii ↔ LastKept user token pii ds
  /-- Nothing else is found. -/
  missing : ∀ (s : Session) token, s.held .pii = some (.reference token) →
    (∀ pii, ¬ LastKept user token pii ds) → resolvePii o s user = .error (.notKept (.notFound
      (if o.vault.holds user then "pii reference for " ++ toString user else "cached pii")))
  /-- What was done for others might as well not have been done. -/
  same : Vault.Same user o.vault (Vault.run .empty (ds.filter (·.concerns user)))
  replies : Vault.replies user .empty ds =
    Vault.replies user .empty (ds.filter (·.concerns user))
  apart : ∀ o' : Office, o'.vault = Vault.run .empty (ds.filter (·.concerns user)) →
    o'.down = o.down → ∀ s, resolvePii o s user = resolvePii o' s user

/-- **A token stands for the data of its own user**: that which was kept for it last, as long as the
    user is not forgotten, whatever is done for others. -/
theorem references_resolve {ds : List Vault.Deed} (hv : o.vault = Vault.run .empty ds)
    (reach : Call.holds ∉ o.down) (user : UserId) : Resolves ds o user := by
  have hcovered : o.vault.Covered := hv ▸ Vault.covered_run ds
  have hreferences (token : CacheToken) (pii : Pii) :
      o.vault.references user token = some pii ↔ LastKept user token pii ds :=
    hv ▸ Vault.references_run_iff ds
  have hfetch (token : CacheToken) (pii : Pii) :
      o.vault.fetch user token = .ok pii ↔ LastKept user token pii ds := by
    rw [← hreferences, Vault.fetch]
    cases o.vault.references user token <;> simp
  have hsame : Vault.Same user o.vault (Vault.run .empty (ds.filter (·.concerns user))) :=
    hv ▸ Vault.same_run_filter (.refl user .empty) ds
  constructor
  case covered => exact hcovered
  case fetched => exact hfetch
  case resolved =>
    intro s token hs pii
    rw [resolvePii_reference reach hs, ← hfetch]
    cases hholds : o.vault.holds user with
    | true => cases o.vault.fetch user token <;> simp [Except.mapError]
    | false =>
      -- without an entry there is nothing to be fetched
      have hnone : ¬ o.vault.fetch user token = .ok pii := fun h => by
        rw [hcovered user token pii ((hreferences token pii).2 ((hfetch token pii).1 h))] at hholds
        cases hholds
      simp [Except.mapError, hnone]
  case missing =>
    intro s token hs hnone
    rw [resolvePii_reference reach hs]
    have href : o.vault.references user token = none :=
      Option.eq_none_iff_forall_ne_some.2 fun pii h => hnone pii ((hreferences token pii).1 h)
    rw [Vault.fetch, href]
    cases o.vault.holds user <;> rfl
  case same => exact hsame
  case replies => exact Vault.replies_filter (.refl user .empty) ds
  case apart => exact fun o' hv' down s => resolvePii_of_same (hv' ▸ hsame) down.symm s

/-- Two users have data for the same token; then the second is forgotten. -/
def twoTenants (user other : UserId) : List Vault.Deed :=
  [.keep user ⟨"t"⟩ ⟨1⟩ .empty, .keep other ⟨"t"⟩ ⟨2⟩ { Pii.empty with city := some "Rome" },
    .persist other ⟨2⟩ ⟨"not a record"⟩, .evict other]

/-- The first user still finds the data, and what the second one finds tells nothing of it. -/
theorem references_resolve_twoTenants :
    let user : UserId := ⟨⟨List.replicate 16 0, rfl⟩⟩
    let other : UserId := ⟨⟨List.replicate 16 1, rfl⟩⟩
    let ds := twoTenants user other
    let o := { Office.empty ⟨0⟩ with vault := Vault.run .empty ds }
    let s := (Session.new ⟨"s"⟩ .default).put .pii (some (.reference ⟨"t"⟩))
    Call.holds ∉ o.down ∧ s.held .pii = some (.reference ⟨"t"⟩) ∧
      resolvePii o s user = .ok .empty ∧
      resolvePii o s other =
        .error (.notKept (.notFound "cached pii")) := by
  intro user other ds o s
  have reach : Call.holds ∉ o.down := List.not_mem_nil
  have hs : s.held .pii = some (.reference ⟨"t"⟩) := rfl
  have apart : other ≠ user := by decide
  have hnone : ∀ pii, ¬ LastKept other ⟨"t"⟩ pii ds := fun pii h =>
    nomatch (show none = some pii from (Vault.references_run_iff ds).2 h)
  refine ⟨reach, hs, ?_, ?_⟩
  · exact ((references_resolve rfl reach user).resolved s ⟨"t"⟩ hs .empty).2
      ⟨[], ⟨1⟩, _, rfl, by simp [Vault.Deed.Settles, apart]⟩
  · exact (references_resolve rfl reach other).missing s ⟨"t"⟩ hs hnone

end Completion

end Proofing
