import Proofing.Fault
import Proofing.Identity
/-
  Proofing — enrollments for proofing in person.

  A user has at most one enrollment.  It is opened during the flow, linked to the
  profile once there is one, and then handed to the vendor, who schedules the
  visit.
-/
namespace Proofing

/-- How far an enrollment has come. -/
inductive EnrollmentStage where
  /-- Opened, not yet handed to the vendor. -/
  | establishing
  /-- Scheduled; the visit is awaited. -/
  | pending
  | passed
  | failed
  | expired
  deriving DecidableEq, Repr

/-- The name in stored data. -/
def EnrollmentStage.name : EnrollmentStage → String
  | establishing => "establishing"
  | pending => "pending"
  | passed => "passed"
  | failed => "failed"
  | expired => "expired"

instance : Variants EnrollmentStage :=
  ⟨[("establishing", .establishing), ("pending", .pending), ("passed", .passed),
    ("failed", .failed), ("expired", .expired)], EnrollmentStage.name⟩

/-- An enrollment for a visit. -/
structure Enrollment where
  id : UInt64
  user : UserId
  profile : Option ProfileId
  stage : EnrollmentStage
  deriving DecidableEq

namespace Enrollment

/-- The fields of the JSON form. -/
def record : Record Enrollment :=
  Enrollment.mk <$> .field "id" <*> .field "user_id" <*> .optional "profile_id" <*> .field "status"

instance : Coded Enrollment where
  encode e := .ofMembers [("id", Coded.encode e.id), ("user_id", Coded.encode e.user),
    ("profile_id", Coded.encode e.profile), ("status", Coded.encode e.stage)]
  decode := record.decode "InPersonEnrollment"

end Enrollment

/-- The enrollments of all users. -/
structure Enrollments where
  ofUser : UserId → Option Enrollment
  nextId : UInt64
  /-- The users whose visits were scheduled, in order. -/
  scheduled : List UserId
  /-- Scheduling a visit fails. -/
  failScheduling : Bool

namespace Enrollments

/-- No enrollments. -/
def empty : Enrollments where
  ofUser := fun _ => none
  nextId := 1
  scheduled := []
  failScheduling := false

/-- The enrollments with one in the place of the user's. -/
def enter (es : Enrollments) (user : UserId) (e : Enrollment) : Enrollments :=
  { es with ofUser := fun u => if u = user then some e else es.ofUser u }

/-- Opens an enrollment for a user, in the place of any other. -/
def establish (es : Enrollments) (user : UserId) : Enrollment × Enrollments :=
  let e : Enrollment := ⟨es.nextId, user, none, .establishing⟩
  (e, { es.enter user e with nextId := es.nextId + 1 })

/-- The enrollment of a user that is not handed to the vendor yet. -/
def establishing? (es : Enrollments) (user : UserId) : Option Enrollment :=
  (es.ofUser user).filter (·.stage == .establishing)

/-- Links an enrollment to a profile; it has to be the one that the user has. -/
def link (es : Enrollments) (e : Enrollment) (profile : ProfileId) :
    Except StoreFault Enrollments :=
  match (es.ofUser e.user).filter (·.id == e.id) with
  | some stored => .ok (es.enter e.user { stored with profile := some profile })
  | none => .error (.notFound ("enrollment " ++ toString e.id.toNat))

/-- Hands the enrollment of a user to the vendor. -/
def schedule (es : Enrollments) (user : UserId) : Except VendorFault Enrollments :=
  if es.failScheduling then .error .timeout
  else
    match es.ofUser user with
    | none => .error (.rejected "no enrollment for user")
    | some e =>
      .ok { es.enter user { e with stage := .pending } with scheduled := es.scheduled ++ [user] }

end Enrollments

end Proofing
