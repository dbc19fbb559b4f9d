import Proofing.Enrollment
/-
  Proofing — every enrollment is kept for the user that it is of.
-/
namespace Proofing

namespace Enrollments

/-- The enrollments are some that the service can come to. -/
inductive Reachable : Enrollments → Prop
  | empty : Reachable .empty
  | establish {es : Enrollments} (h : Reachable es) (user : UserId) :
    Reachable (es.establish user).2
  | link {es es' : Enrollments} (h : Reachable es) {e : Enrollment} {profile : ProfileId}
    (he : es.link e profile = .ok es') : Reachable es'
  | schedule {es es' : Enrollments} (h : Reachable es) {user : UserId}
    (he : es.schedule user = .ok es') : Reachable es'
  | failing {es : Enrollments} (h : Reachable es) (on : Bool) :
    Reachable { es with failScheduling := on }

theorem ofUser_enter {es : Enrollments} {user u : UserId} {e x : Enrollment}
    (h : (es.enter user e).ofUser u = some x) :
    (u = user ∧ x = e) ∨ (u ≠ user ∧ es.ofUser u = some x) := by
  unfold enter at h
  by_cases hu : u = user
  · simp only [hu, if_true, Option.some.injEq] at h
    exact Or.inl ⟨hu, h.symm⟩
  · simp only [hu, if_false] at h
    exact Or.inr ⟨hu, h⟩

/-- An enrollment is kept for the user that it is of. -/
theorem Reachable.own {es : Enrollments} (h : es.Reachable) :
    ∀ {user e}, es.ofUser user = some e → e.user = user := by
  induction h with
  | empty => intro user e he; cases he
  | establish h u ih =>
    intro user e he
    rcases ofUser_enter he with ⟨rfl, rfl⟩ | ⟨-, he⟩
    · rfl
    · exact ih he
  | link h he ih =>
    rename_i es es' e₀ profile
    intro user e hu
    unfold Enrollments.link at he
    split at he
    · rename_i stored hs
      cases he
      rcases ofUser_enter hu with ⟨rfl, rfl⟩ | ⟨-, hu⟩
      · have : stored.user = e₀.user := ih (Option.filter_eq_some_iff.1 hs).1
        exact this
      · exact ih hu
    · cases he
  | schedule h he ih =>
    rename_i es es' u
    intro user e hu
    unfold Enrollments.schedule at he
    split at he
    · cases he
    · split at he
      · cases he
      · rename_i stored hs
        cases he
        rcases ofUser_enter hu with ⟨rfl, rfl⟩ | ⟨-, hu⟩
        · have : stored.user = user := ih hs
          exact this
        · exact ih hu
  | failing h on ih => exact fun he => ih he

/-- An open enrollment is the user's own, and is the one that the user has. -/
theorem Reachable.establishing?_own {es : Enrollments} (h : es.Reachable) {user : UserId}
    {e : Enrollment} (he : es.establishing? user = some e) :
    e.user = user ∧ es.ofUser user = some e := by
  have hu := (Option.filter_eq_some_iff.1 he).1
  exact ⟨h.own hu, hu⟩

end Enrollments

end Proofing
