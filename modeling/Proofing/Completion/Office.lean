import Proofing.Enrollment
import Proofing.Mailroom
import Proofing.Registry
import Proofing.Vault
/-
  Proofing — the services that are needed to complete a flow, and the events that
  the host application is told of.
-/
namespace Proofing

/-- Something that happened on the way to a profile. -/
inductive Event where
  | profileCreated (profile : ProfileId) (user : UserId) (holds : List Hold)
  | profileActivated (profile : ProfileId)
  /-- Staged personal data was taken into the vault. -/
  | piiRelocated (profile : ProfileId)
  | enrollmentLinked (profile : ProfileId) (enrollment : UInt64)
  | letterRequested (profile : ProfileId)
  | visitScheduled (profile : ProfileId)
  deriving DecidableEq

/-- A call that can fail while a flow is completed, though the service is in order. -/
inductive Call where
  /-- Starting a transaction. -/
  | start
  /-- Looking a profile up. -/
  | find
  /-- Asking whether the vault has data of a user. -/
  | holds
  /-- Asking for the open enrollment of a user. -/
  | establishing
  /-- Linking an enrollment to a profile. -/
  | link
  deriving DecidableEq, Repr

/-- The name in messages. -/
def Call.name : Call → String
  | start => "begin"
  | find => "find"
  | holds => "exists"
  | establishing => "establishing"
  | link => "associate"

/-- Something that can be made to fail. -/
inductive Failure where
  /-- Creating a profile. -/
  | creates
  /-- Committing a transaction. -/
  | commits
  /-- Opening the data of a profile to stage it. -/
  | saves
  /-- Taking staged data into the vault. -/
  | writes
  /-- Sending a letter. -/
  | letters
  /-- Scheduling a visit. -/
  | scheduling
  | call (c : Call)
  deriving DecidableEq, Repr

/-- The failure with a name. -/
def Failure.ofName? : String → Option Failure
  | "creates" => some .creates
  | "commits" => some .commits
  | "saves" => some .saves
  | "durable" => some .writes
  | "gpo" => some .letters
  | "scheduling" => some .scheduling
  | name =>
    ([.start, .find, .holds, .establishing, .link].find? fun c : Call => c.name == name).map .call

/-- The services, and the events that nobody has been told of yet. -/
structure Office where
  registry : Registry
  vault : Vault
  mailroom : Mailroom
  enrollments : Enrollments
  /-- The calls that fail. -/
  down : List Call
  events : List Event

namespace Office

/-- Services that have done nothing yet. -/
def empty (now : Timestamp) : Office where
  registry := .empty now
  vault := .empty
  mailroom := .empty
  enrollments := .empty
  down := []
  events := []

/-- Takes the events out. -/
def drain (o : Office) : List Event × Office :=
  (o.events, { o with events := [] })

/-- Fails if the call does. -/
def reach (o : Office) (call : Call) : Except StoreFault Unit :=
  if call ∈ o.down then .error (.backend ("injected " ++ call.name ++ " failure")) else .ok ()

/-- Switches a failure on or off. -/
def setFailing (o : Office) (f : Failure) (on : Bool) : Office :=
  match f with
  | .creates => { o with registry := { o.registry with failCreates := on } }
  | .commits => { o with registry := { o.registry with failCommits := on } }
  | .saves => { o with vault := { o.vault with failSaves := on } }
  | .writes => { o with vault := { o.vault with failWrites := on } }
  | .letters => { o with mailroom := { o.mailroom with fail := on } }
  | .scheduling => { o with enrollments := { o.enrollments with failScheduling := on } }
  | .call c =>
    let others := o.down.filter (· ≠ c)
    { o with down := if on then c :: others else others }

end Office

end Proofing
